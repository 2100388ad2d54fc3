import ColumnOrigin.Sql.Parser.Operand

/-! Operators between and after operands, and whole expressions. -/

namespace ColumnOrigin.Sql.Parser

/-- Binary operators that every grammar has. -/
def commonOperators : List String := [
  "<=>", "==", "=", "!=", ">", ">=", "<", "<=", "+", "-", "*", "%", "||", "|", "^", "&", "/", "~",
  "~*", "!~", "!~*", "~~", "~~*", "!~~", "!~~*", "->", "->>", "#>", "#>>", "@>", "<@", "#-", "@?",
  "@@", "?", "?&", "?|"]

def isBinaryOperator (g : Grammar) (s : String) : Bool :=
  commonOperators.contains s ||
    match g with
    | .standard => ["//", "<<", ">>", "&&", "^@"].contains s
    | .postgres => ["<<", ">>", "#", "&&", "^@"].contains s
    | .mySql => false

/-- The operators that may compare with ANY, ALL or SOME of a list. -/
def isComparison (s : String) : Bool := [">", "<", ">=", "<=", "=", "==", "!="].contains s

/-- What follows a binary operator that binds at `level`. -/
def rightOperand (r : Rules) (operator : String) (level : Nat) : Parser Unit := do
  if (← anyKeyword? ["ANY", "ALL", "SOME"]).isSome then
    let start ← get
    expectSymbol "("
    if ← atSubquery then
      set start
      let _ ← r.expr level
    else
      let _ ← r.expr level
      expectSymbol ")"
    unless isComparison operator do refuse
  else
    let _ ← r.expr level

/-- The rest of an IS test. -/
def isTest (r : Rules) : Parser Unit := do
  let _ ← keyword? "NOT"
  if (← anyKeyword? ["NULL", "TRUE", "FALSE", "UNKNOWN"]).isNone then
    expectKeywords ["DISTINCT", "FROM"]
    let _ ← r.wholeExpr

/-- The rest of an IN test. -/
def inTest (r : Rules) : Parser Unit := do
  if ← keyword? "UNNEST" then
    let _ ← parenthesised r.wholeExpr
  else
    parenthesised do
      if ← atSubquery then
        let _ ← r.query
      else
        let _ ← r.exprs

/-- The rest of a LIKE test. -/
def likeTest (r : Rules) (mayBeAny : Bool) : Parser Unit := do
  if mayBeAny then
    let _ ← keyword? "ANY"
  operandOf r .like
  if ← keyword? "ESCAPE" then
    let _ ← textLiteral

/-- The tests that NOT may stand before. -/
def negatableTest (r : Rules) : Parser Unit := do
  let _ ← keyword? "NOT"
  let regexp ← keyword? "REGEXP"
  let rlike ← keyword? "RLIKE"
  if regexp || rlike then operandOf r .like
  else if ← keyword? "IN" then inTest r
  else if ← keyword? "BETWEEN" then
    operandOf r .between
    expectKeyword "AND"
    operandOf r .between
  else if ← keyword? "LIKE" then likeTest r true
  else if ← keyword? "ILIKE" then likeTest r true
  else if ← keywords? ["SIMILAR", "TO"] then likeTest r false
  else refuse

/-- What follows the opening bracket of a subscript, which has been read. -/
def subscript (r : Rules) : Parser Unit := do
  if ← inGrammar [.mySql] then
    let _ ← r.wholeExpr
    expectSymbol "]"
  else
    if ← symbol? ":" then upperBound
    else
      let _ ← r.wholeExpr
      unless ← symbol? "]" do
        expectSymbol ":"
        upperBound
where
  upperBound : Parser Unit := do
    unless ← symbol? "]" do
      let _ ← r.wholeExpr
      unless ← symbol? "]" do
        expectSymbol ":"
        unless ← symbol? "]" do
          let _ ← r.wholeExpr
          expectSymbol "]"

/-- The name of an operator in `OPERATOR(…)`: any tokens with periods between them. -/
def operatorName : Parser Unit := parenthesised do
  skip
  let _ ← iterate (fun (_ : Unit) => do
    if ← symbol? "." then
      skip
      return some ()
    else return none) ()

/-- The keyword `k` as an operator that binds at `level`, with its right operand. -/
def keywordOperator (r : Rules) (k : String) (level : Nat) : Parser Unit := do
  if ["NOT", "IN", "BETWEEN", "LIKE", "ILIKE", "SIMILAR", "REGEXP", "RLIKE"].contains k then
    negatableTest r
  else
    skip
    match k with
    | "AND" => rightOperand r k level
    | "OR" => rightOperand r k level
    | "XOR" => rightOperand r k level
    | "OPERATOR" =>
      if ← inGrammar [.mySql] then refuse
      operatorName
      rightOperand r k level
    | "DIV" =>
      unless ← inGrammar [.mySql] do refuse
      let _ ← r.wholeExpr
    | "IS" => isTest r
    | "AT" =>
      expectKeywords ["TIME", "ZONE"]
      let _ ← r.expr level
    | _ => refuse

/-- The operator that comes next and binds at `level`, with its right operand. -/
def operator (r : Rules) (level : Nat) : Parser Unit := do
  match ← peek with
  | some (.word w) => keywordOperator r w.keyword level
  | some (.operatorRun s) => skip; rightOperand r s level
  | some (.symbol s) =>
    skip
    if isBinaryOperator (← grammar) s then rightOperand r s level
    else if s == "::" then
      let _ ← r.wholeType
    else if s == "[" then subscript r
    else if s == "!" then
      unless ← inGrammar [.postgres] do refuse
    else refuse
  | _ => refuse

/-- An expression up to an operator that binds no stronger than `level`. It is a level of its
own. -/
def expr (r : Rules) (level : Nat) : Parser Expr := deeper do
  let first ← operand r
  iterate (fun (_ : Expr) => do
    let next ← nextLevel
    if next ≤ level then return none
    else
      operator r next
      return some .computed) first

end ColumnOrigin.Sql.Parser
