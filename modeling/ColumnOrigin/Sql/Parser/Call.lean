import ColumnOrigin.Sql.Parser.Rules

/-! Function calls: arguments, the clauses inside and after the parentheses, and windows. -/

namespace ColumnOrigin.Sql.Parser

/-! ## Ordering -/

/-- An expression to order by. -/
def orderByItem (r : Rules) : Parser Unit := do
  let _ ← r.wholeExpr
  let _ ← anyKeyword? ["ASC", "DESC"]
  unless ← keywords? ["NULLS", "FIRST"] do
    let _ ← keywords? ["NULLS", "LAST"]
  if ← inGrammar [.standard] then
    if ← keywords? ["WITH", "FILL"] then
      for k in ["FROM", "TO", "STEP"] do
        if ← keyword? k then
          let _ ← r.wholeExpr

def orderByItems (r : Rules) : Parser Unit := do
  let _ ← commaSeparated (orderByItem r)

/-- The list after ORDER BY, if those words are next. -/
def orderBy? (r : Rules) : Parser Bool := do
  if ← keywords? ["ORDER", "BY"] then
    orderByItems r
    return true
  else return false

/-! ## Windows -/

/-- A field of a date or time, as a keyword. PostgreSQL and the standard also take any other name,
which has none. -/
def dateTimeField : Parser String := do
  match ← next with
  | some (.word w) =>
    if w.keyword == "WEEK" then
      if ← inGrammar [.standard] then
        if ← symbol? "(" then
          let _ ← name
          expectSymbol ")"
    else unless Keyword.dateTimeFields.contains w.keyword do
      unless ← inGrammar [.standard, .postgres] do refuse
    return w.keyword
  | some (.string _) => if ← inGrammar [.standard, .postgres] then return "" else refuse
  | _ => refuse

/-- An interval whose keyword has been read. MySQL takes a whole expression and needs the unit. -/
def interval (r : Rules) : Parser Unit := do
  let needsUnit ← inGrammar [.mySql]
  let _ ← if needsUnit then r.wholeExpr else r.operand
  let atUnit ← atKeywords Keyword.intervalUnits
  if needsUnit && !atUnit then refuse
  let unit ← if atUnit then dateTimeField else pure ""
  if unit == "SECOND" then
    if ← symbol? "(" then
      let _ ← naturalLiteral
      if ← symbol? "," then
        let _ ← naturalLiteral
      expectSymbol ")"
  else
    precision
    if ← keyword? "TO" then
      let last ← dateTimeField
      if last == "SECOND" then precision
where
  precision : Parser Unit := do
    if ← symbol? "(" then
      let _ ← naturalLiteral
      expectSymbol ")"

/-- One end of a window frame. -/
def frameBound (r : Rules) : Parser Unit := do
  unless ← keywords? ["CURRENT", "ROW"] do
    unless ← keyword? "UNBOUNDED" do
      match ← peek with
      | some (.string _) => interval r
      | _ => let _ ← r.wholeExpr
    let _ ← expectAnyKeyword ["PRECEDING", "FOLLOWING"]

/-- A window whose opening parenthesis has been read, with the closing one. -/
def windowSpec (r : Rules) : Parser Unit := do
  match ← peek with
  | some (.word w) => unless Keyword.isKeyword w.keyword do skip
  | _ => pure ()
  if ← keywords? ["PARTITION", "BY"] then
    let _ ← r.exprs
  let _ ← orderBy? r
  unless ← symbol? ")" do
    let _ ← expectAnyKeyword ["ROWS", "RANGE", "GROUPS"]
    if ← keyword? "BETWEEN" then
      frameBound r
      expectKeyword "AND"
    frameBound r
    expectSymbol ")"

/-! ## Arguments -/

/-- The rest of a name after its first part and a period, or of `name.*` if a star ends it. -/
def wildcardTail (parts : List String) : Parser (List String × Bool) :=
  iterate (fun (parts, isWildcard) => do
    if isWildcard then return none
    else if ← symbol? "." then
      match ← next with
      | some (.word w) => return some (parts ++ [w.text], false)
      | some (.string s) => return some (parts ++ [s], false)
      | some (.symbol "*") => return some (parts, true)
      | _ => refuse
    else return none) (parts, false)

/-- An expression or a wildcard. -/
inductive WildcardExpr where
  | wildcard
  | qualified (qualifier : List String)
  | expr (e : Expr)

/-- `*`, or a name with `.*` after it, if that is next. -/
def wildcard? : Parser (Option WildcardExpr) := do
  let start ← get
  let first : Option String := match start with
    | .word w :: .symbol "." :: _ => some w.text
    | .string s :: .symbol "." :: _ => some s
    | _ => none
  match first with
  | some part =>
    skip
    let (parts, isWildcard) ← wildcardTail [part]
    if isWildcard then return some (.qualified parts)
    else
      set start
      return none
  | none => if ← symbol? "*" then return some .wildcard else return none

/-- An expression or a wildcard. A name that turns out to be followed by something else than a star
is read again as an expression. -/
def wildcardExpr (r : Rules) : Parser WildcardExpr := do
  match ← wildcard? with
  | some w => return w
  | none => return .expr (← r.wholeExpr)

/-- The value of an argument with a name, and the sign between them. -/
def argumentValue (r : Rules) : Parser Unit := do
  unless ← keyword? "VALUE" do
    unless ← symbol? "=>" do
      match ← grammar with
      | .standard => expectSymbol ":="
      | .postgres => expectSymbol ":"
      | .mySql => refuse
  let _ ← wildcardExpr r

/-- One argument, where any expression may be its name. -/
def argumentNamedByExpr (r : Rules) : Parser Unit := do
  let start ← get
  match ← outcome r.wholeExpr with
  | .ok _ =>
    if (← attempt (argumentValue r)).isNone then
      let afterExpr ← get
      set start
      if (← wildcard?).isNone then set afterExpr
  | .error .tooDeep => throw .tooDeep
  | .error e => if (← wildcard?).isNone then throw e

/-- One argument, perhaps with a name. -/
def argument (r : Rules) : Parser Unit := do
  if ← inGrammar [.postgres] then argumentNamedByExpr r
  else
    let named ← attempt do
      let _ ← name
      argumentValue r
    if named.isNone then
      let _ ← wildcardExpr r

def nullTreatment? : Parser Bool := do
  if (← anyKeyword? ["RESPECT", "IGNORE"]).isSome then
    expectKeyword "NULLS"
    return true
  else return false

def jsonNullClause? : Parser Bool := do
  if ← keywords? ["ABSENT", "ON", "NULL"] then return true
  else keywords? ["NULL", "ON", "NULL"]

/-- ON OVERFLOW of LISTAGG. -/
def overflowClause? (r : Rules) : Parser Unit := do
  if ← keywords? ["ON", "OVERFLOW"] then
    unless ← keyword? "ERROR" do
      expectKeyword "TRUNCATE"
      unless ← atKeywords ["WITH", "WITHOUT"] do
        match ← peek with
        | some (.string _) => let _ ← r.wholeExpr
        | some (.escapedString _) => let _ ← r.wholeExpr
        | some (.unicodeString _) => let _ ← r.wholeExpr
        | some (.literal .national) => let _ ← r.wholeExpr
        | some (.literal .hex) => let _ ← r.wholeExpr
        | _ => refuse
      let _ ← expectAnyKeyword ["WITH", "WITHOUT"]
      expectKeyword "COUNT"

/-- The clauses after the last argument. Whether one of them treats nulls. -/
def argumentClauses (r : Rules) : Parser Bool := do
  let treatsNulls ← if ← inGrammar [.standard] then nullTreatment? else pure false
  let _ ← orderBy? r
  if ← keyword? "LIMIT" then
    let _ ← r.wholeExpr
  if ← inGrammar [.standard] then
    if ← keyword? "HAVING" then
      let _ ← expectAnyKeyword ["MIN", "MAX"]
      let _ ← r.wholeExpr
  if ← inGrammar [.standard, .mySql] then
    if ← keyword? "SEPARATOR" then value
  overflowClause? r
  let _ ← jsonNullClause?
  return treatsNulls

/-- An argument list whose opening parenthesis has been read, with the closing one. Whether a
clause in it treats nulls. -/
def argumentList (r : Rules) : Parser Bool := do
  let _ ← jsonNullClause?
  if ← symbol? ")" then return false
  else
    let all ← keyword? "ALL"
    let distinct ← keyword? "DISTINCT"
    if all && distinct then refuse
    let _ ← commaSeparated (argument r)
    let treatsNulls ← argumentClauses r
    expectSymbol ")"
    return treatsNulls

/-- A function call from the opening parenthesis on. -/
def call (r : Rules) : Parser Unit := do
  expectSymbol "("
  let treatsNulls ← argumentList r
  let treatsNulls ←
    if ← inGrammar [.standard] then
      if ← symbol? "(" then argumentList r else pure treatsNulls
    else pure treatsNulls
  if ← keywords? ["WITHIN", "GROUP"] then
    parenthesised do
      expectKeywords ["ORDER", "BY"]
      orderByItems r
  if ← inGrammar [.postgres] then filter?
  unless treatsNulls do
    let _ ← nullTreatment?
  if ← keyword? "OVER" then
    if ← symbol? "(" then windowSpec r
    else let _ ← name
where
  filter? : Parser Unit := do
    if ← keyword? "FILTER" then
      if ← symbol? "(" then
        if ← keyword? "WHERE" then
          let _ ← r.wholeExpr
          expectSymbol ")"

/-- The arguments of a function in LATERAL whose opening parenthesis has been read, with the closing
one. -/
def lateralArguments (r : Rules) : Parser Unit := do
  unless ← symbol? ")" do
    let _ ← commaSeparated (argument r)
    expectSymbol ")"

end ColumnOrigin.Sql.Parser
