import ColumnOrigin.Sql.Parser.Call
import ColumnOrigin.Sql.Parser.DataType
import ColumnOrigin.Sql.Parser.Precedence

/-! Expressions without binary operators at their top: literals, names, calls, parentheses and the
special forms that begin with a keyword. -/

namespace ColumnOrigin.Sql.Parser

/-- A subexpression in which operators of the given binding and weaker ones do not occur. -/
def operandOf (r : Rules) (b : Binding) : Parser Unit := do
  let _ ← r.expr (b.level (← grammar))

/-! ## Special forms -/

def caseForm (r : Rules) : Parser Unit := do
  unless ← keyword? "WHEN" do
    let _ ← r.wholeExpr
    expectKeyword "WHEN"
  branch
  let _ ← iterate (fun (_ : Unit) => do
    if ← keyword? "WHEN" then
      branch
      return some ()
    else return none) ()
  if ← keyword? "ELSE" then
    let _ ← r.wholeExpr
  expectKeyword "END"
where
  branch : Parser Unit := do
    let _ ← r.wholeExpr
    expectKeyword "THEN"
    let _ ← r.wholeExpr

def convertForm (r : Rules) : Parser Unit := parenthesised do
  let _ ← r.wholeExpr
  if ← keyword? "USING" then
    let _ ← dottedName
  else
    expectSymbol ","
    let _ ← r.wholeType
    if ← keywords? ["CHARACTER", "SET"] then
      let _ ← dottedName

def castForm (r : Rules) : Parser Unit := parenthesised do
  let _ ← r.wholeExpr
  expectKeyword "AS"
  let _ ← r.wholeType
  if ← keyword? "FORMAT" then
    value
    if ← keywords? ["AT", "TIME", "ZONE"] then value

def subquery (r : Rules) : Parser Unit := parenthesised do
  let _ ← r.query

def extractForm (r : Rules) : Parser Unit := parenthesised do
  let _ ← dateTimeField
  unless ← keyword? "FROM" do
    expectSymbol ","
    unless ← inGrammar [.standard] do refuse
  let _ ← r.wholeExpr

def roundForm (r : Rules) : Parser Unit := parenthesised do
  let _ ← r.wholeExpr
  if ← keyword? "TO" then
    let _ ← dateTimeField
  else if ← symbol? "," then
    match ← next with
    | some (.number _ _) => pure ()
    | _ => refuse

def positionForm (r : Rules) : Parser Unit := do
  let form ← attempt (parenthesised do
    operandOf r .between
    expectKeyword "IN"
    let _ ← r.wholeExpr)
  if form.isNone then call r

def substringForm (r : Rules) : Parser Unit := parenthesised do
  let _ ← r.wholeExpr
  if ← commaOrKeyword? "FROM" then
    let _ ← r.wholeExpr
  if ← commaOrKeyword? "FOR" then
    let _ ← r.wholeExpr

def overlayForm (r : Rules) : Parser Unit := parenthesised do
  let _ ← r.wholeExpr
  expectKeyword "PLACING"
  let _ ← r.wholeExpr
  expectKeyword "FROM"
  let _ ← r.wholeExpr
  if ← keyword? "FOR" then
    let _ ← r.wholeExpr

def trimForm (r : Rules) : Parser Unit := parenthesised do
  let _ ← anyKeyword? ["BOTH", "LEADING", "TRAILING"]
  let _ ← r.wholeExpr
  if ← keyword? "FROM" then
    let _ ← r.wholeExpr
  else if ← symbol? "," then
    if ← inGrammar [.standard] then
      let _ ← r.exprs

/-- The items of an array whose opening bracket has been read, with the closing one. -/
def arrayItems (r : Rules) : Parser Unit := do
  let _ ← commaSeparatedUntil "]" r.wholeExpr
  expectSymbol "]"

def notForm (r : Rules) : Parser Unit := do
  if ← keyword? "EXISTS" then subquery r
  else operandOf r .not

def matchForm : Parser Unit := do
  let _ ← nameList
  expectKeyword "AGAINST"
  parenthesised do
    value
    if ← keywords? ["IN", "NATURAL", "LANGUAGE", "MODE"] then
      let _ ← keywords? ["WITH", "QUERY", "EXPANSION"]
    else unless ← keywords? ["IN", "BOOLEAN", "MODE"] do
      let _ ← keywords? ["WITH", "QUERY", "EXPANSION"]

/-- STRUCT after its keyword. The fields have names in the type or in the values, not in both. -/
def structForm (r : Rules) : Parser Unit := do
  let (isTyped, closed) ← structFields? r
  if closed then refuse
  let _ ← parenthesised (commaSeparated do
    let _ ← r.wholeExpr
    if ← keyword? "AS" then
      if isTyped then refuse
      let _ ← name)

/-- A map whose opening brace is next. -/
def mapForm (r : Rules) : Parser Unit := do
  expectSymbol "\x7b"
  let _ ← commaSeparatedUntil "\x7d" do
    let _ ← r.wholeExpr
    expectSymbol ":"
    r.wholeExpr
  expectSymbol "\x7d"

/-- The special form that begins with a word, which has been read. Where the word begins none, no
more is read. -/
def specialForm (r : Rules) (w : Word) : Parser Bool := do
  let done : Parser Unit → Parser Bool := fun p => do p; return true
  let g ← grammar
  match w.keyword with
  | "TRUE" => return true
  | "FALSE" => return true
  | "NULL" => return true
  | "CURRENT_CATALOG" => return g != .mySql
  | "CURRENT_USER" => return g != .mySql
  | "SESSION_USER" => return g != .mySql
  | "USER" => return g != .mySql
  | "CURRENT_TIMESTAMP" => done timeCall
  | "CURRENT_TIME" => done timeCall
  | "CURRENT_DATE" => done timeCall
  | "LOCALTIME" => done timeCall
  | "LOCALTIMESTAMP" => done timeCall
  | "CASE" => done (caseForm r)
  | "CONVERT" => done (convertForm r)
  | "TRY_CONVERT" => if g == .standard then done (convertForm r) else return false
  | "CAST" => done (castForm r)
  | "TRY_CAST" => done (castForm r)
  | "SAFE_CAST" => done (castForm r)
  | "EXISTS" => done (subquery r)
  | "EXTRACT" => done (extractForm r)
  | "CEIL" => done (roundForm r)
  | "FLOOR" => done (roundForm r)
  | "POSITION" => if ← atSymbol "(" then done (positionForm r) else return false
  | "SUBSTRING" => done (substringForm r)
  | "OVERLAY" => done (overlayForm r)
  | "TRIM" => done (trimForm r)
  | "INTERVAL" => done (interval r)
  | "ARRAY" =>
    if ← symbol? "[" then done (arrayItems r)
    else if ← atSymbol "(" then done (subquery r)
    else return false
  | "NOT" => done (notForm r)
  | "MATCH" => if g == .postgres then return false else done matchForm
  | "STRUCT" => if g == .standard then done (structForm r) else return false
  | "MAP" =>
    if g == .standard then
      if ← atSymbol "\x7b" then done (mapForm r) else return false
    else return false
  | "PRIOR" => if (← read).inConnectBy then done (operandOf r .plusMinus) else return false
  | _ => return false
where
  timeCall : Parser Unit := do
    if ← symbol? "(" then
      let _ ← argumentList r

/-! ## Names -/

/-- A name or call that begins with a word, which has been read. -/
def nameOrCall (r : Rules) (w : Word) : Parser Expr := do
  let (parts, isWildcard) ← wildcardTail [w.text]
  if isWildcard then
    unless ← inGrammar [.postgres] do refuse
    return .computed
  else if ← atSymbol "(" then
    call r
    return .computed
  else if parts.length == 1 && w.text.startsWith "_" then
    match ← peek with
    | some (.string _) => skip; return .computed
    | some (.wideString _) => skip; return .computed
    | some (.literal .hex) => skip; return .computed
    | _ => return .column parts
  else return .column parts

/-- The expression with the collation after it, if there is one. -/
def collated (e : Expr) : Parser Expr := do
  if ← keyword? "COLLATE" then
    let _ ← dottedName
    return .computed
  else return e

/-- The expression that begins with a word, which has been read: the special form of that word if
it has one. Where the text does not follow the form, the word is a name, unless it cannot be. -/
def wordOperand (r : Rules) (w : Word) : Parser Expr := do
  match ← outcome (specialForm r w) with
  | .ok true => collated .computed
  | .ok false => collated (← nameOrCall r w)
  | .error e =>
    if Keyword.reservedInExpressions.contains w.keyword then throw e
    else match ← outcome (nameOrCall r w) with
      | .ok named => return named
      | .error _ => throw e

/-! ## All operands -/

/-- What stands after an opening parenthesis that has been read: a query, or expressions. The
parenthesis is closed, and a field of the value may follow. -/
def parenthesisOperand (r : Rules) : Parser Unit := do
  if ← atSubquery then
    let _ ← r.query
  else
    let _ ← r.exprs
  expectSymbol ")"
  if ← symbol? "." then
    match ← next with
    | some (.word _) => pure ()
    | _ => refuse

/-- What follows an opening brace, with the closing one: a call after FN, or a dictionary that is
not empty. -/
def braceOperand (r : Rules) : Parser Unit := do
  let called ← attempt do
    expectKeyword "FN"
    let _ ← dottedName
    call r
  if called.isNone then
    unless ← inGrammar [.standard] do refuse
    let _ ← commaSeparated do
      let _ ← name
      expectSymbol ":"
      r.wholeExpr
  expectSymbol "\x7d"

/-- A type before a literal of that type, or an interval. -/
def typedOperand (r : Rules) : Parser Unit := do
  match ← r.wholeType with
  | .interval => interval r
  | .custom => refuse
  | .builtIn => let _ ← textLiteral

/-- The operand that begins with a symbol, which has been read. -/
def symbolOperand (r : Rules) (s : String) : Parser Unit := do
  let g ← grammar
  if s == "[" then arrayItems r
  else if s == "-" || s == "+" then operandOf r .mulDivMod
  else if g == .postgres && ["!!", "|/", "||/", "@", "~"].contains s then operandOf r .plusMinus
  else if s == "(" then parenthesisOperand r
  else if s == "\x7b" then braceOperand r
  else if s == ":" || s == "@" then placeholderName
  else refuse

/-- An expression without binary operators at its top. -/
def operand (r : Rules) : Parser Expr := do
  match ← attempt (typedOperand r) with
  | some _ => return .computed
  | none =>
    match ← next with
    | some (.word w) => wordOperand r w
    | some (.number _ _) => collated .computed
    | some (.string _) => collated .computed
    | some (.wideString _) => collated .computed
    | some (.escapedString _) =>
      if ← inGrammar [.standard, .postgres] then collated .computed else refuse
    | some (.unicodeString _) => collated .computed
    | some (.literal _) => collated .computed
    | some (.placeholder _) => collated .computed
    | some (.symbol s) => symbolOperand r s; collated .computed
    | _ => refuse

end ColumnOrigin.Sql.Parser
