import ColumnOrigin.Sql.Parser.Call
import ColumnOrigin.Sql.Parser.DataType

/-! The FROM clause: table factors, their aliases and the joins between them. -/

namespace ColumnOrigin.Sql.Parser

/-! ## Aliases -/

/-- The columns in parentheses after a table's alias, each perhaps with its type. -/
def aliasColumns? (r : Rules) : Parser Unit := do
  if ← symbol? "(" then
    let _ ← commaSeparated do
      let _ ← name
      let _ ← attempt r.wholeType
    expectSymbol ")"

def tableAlias? (r : Rules) : Parser (Option String) := do
  match ← aliasName? Keyword.reservedForTableAlias with
  | some a =>
    aliasColumns? r
    return some a
  | none => return none

/-! ## Rows and documents as tables -/

/-- The rows after VALUES. -/
def valuesRows (r : Rules) (mayBeEmpty : Bool) : Parser Unit := do
  let _ ← commaSeparated do
    let _ ← keyword? "ROW"
    parenthesised do
      unless mayBeEmpty && (← atSymbol ")") do
        let _ ← r.exprs

/-- ON EMPTY and ON ERROR of a JSON_TABLE column. -/
def jsonErrorClauses : Parser Unit := do
  let _ ← iterate (fun (_ : Unit) => do
    match ← anyKeyword? ["NULL", "ERROR", "DEFAULT"] with
    | none => return none
    | some k =>
      if k == "DEFAULT" then value
      expectKeyword "ON"
      let _ ← expectAnyKeyword ["EMPTY", "ERROR"]
      return some ()) ()

/-- A column of JSON_TABLE, which may hold columns itself. -/
def jsonColumn (r : Rules) : Parser Unit := do
  if ← keyword? "NESTED" then
    let _ ← keyword? "PATH"
    value
    expectKeyword "COLUMNS"
    let _ ← parenthesised (commaSeparated r.jsonColumn)
  else
    let _ ← name
    if ← keyword? "FOR" then expectKeyword "ORDINALITY"
    else
      let _ ← r.wholeType
      let _ ← keyword? "EXISTS"
      expectKeyword "PATH"
      value
      jsonErrorClauses

/-- JSON_TABLE after its opening parenthesis. -/
def jsonTable (r : Rules) : Parser Unit := do
  let _ ← r.wholeExpr
  expectSymbol ","
  value
  expectKeyword "COLUMNS"
  let _ ← parenthesised (commaSeparated r.jsonColumn)
  expectSymbol ")"

/-- OPENJSON after its opening parenthesis. -/
def openJson (r : Rules) : Parser Unit := do
  let _ ← r.wholeExpr
  if ← symbol? "," then value
  expectSymbol ")"
  if ← keyword? "WITH" then
    let _ ← parenthesised (commaSeparated do
      let _ ← name
      let _ ← r.wholeType
      match ← peek with
      | some (.string _) => skip
      | _ => pure ()
      if ← keyword? "AS" then expectKeyword "JSON")

/-- Names with their values, such as `a = 1, b = 2`. -/
def settings : Parser Unit := do
  let _ ← commaSeparated do
    let _ ← name
    expectSymbol "="
    value

/-- The arguments of a table function whose opening parenthesis has been read, with the closing
one. Settings may stand after the arguments. -/
def tableArguments (r : Rules) : Parser Unit := do
  unless ← symbol? ")" do
    let _ ← iterate (fun (going : Bool) => do
      if !going then return none
      else if ← keywordIn? [.standard] "SETTINGS" then
        settings
        return some false
      else
        argument r
        return some (← symbol? ",")) true
    expectSymbol ")"

/-! ## Rotation and row patterns -/

def aliasAfterAs? : Parser Unit := do
  if ← keyword? "AS" then
    let _ ← name

/-- What follows PIVOT. -/
def pivot (r : Rules) : Parser Unit := parenthesised do
  let _ ← commaSeparated do
    match ← next with
    | some (.word _) => call r; aliasAfterAs?
    | _ => refuse
  expectKeyword "FOR"
  let _ ← dottedName
  expectKeyword "IN"
  parenthesised do
    if ← keyword? "ANY" then
      let _ ← orderBy? r
    else if ← atSubquery then
      let _ ← r.query
    else
      let _ ← commaSeparated do
        let _ ← r.wholeExpr
        aliasAfterAs?
  if ← keywords? ["DEFAULT", "ON", "NULL"] then
    let _ ← parenthesised r.wholeExpr

/-- What follows UNPIVOT. -/
def unpivot : Parser Unit := parenthesised do
  let _ ← name
  expectKeyword "FOR"
  let _ ← name
  expectKeyword "IN"
  let _ ← nameList

/-- How often a part of a row pattern may repeat, after its opening brace. -/
def repetitionRange : Parser Unit := do
  if ← symbol? "," then
    let _ ← numeral 32
  else
    let _ ← numeral 32
    if ← symbol? "," then
      unless ← atSymbol "\x7d" do
        let _ ← numeral 32
  expectSymbol "\x7d"

/-- A part of a row pattern without repetition. -/
def patternAtom (r : Rules) : Parser Unit := do
  match ← peek with
  | some (.symbol "^") => skip
  | some (.placeholder "$") => skip
  | some (.symbol "\x7b") =>
    skip
    expectSymbol "-"
    let _ ← name
    expectSymbol "-"
    expectSymbol "\x7d"
  | some (.symbol "(") => parenthesised r.rowPattern
  | some (.word w) =>
    skip
    if w.text == "PERMUTE" && w.keyword != "" then
      let _ ← nameList
  | _ => let _ ← name

def repeatedPattern (r : Rules) : Parser Unit := do
  patternAtom r
  let _ ← iterate (fun (_ : Unit) => do
    match ← peek with
    | some (.symbol "*") => skip; return some ()
    | some (.symbol "+") => skip; return some ()
    | some (.placeholder "?") => skip; return some ()
    | some (.symbol "\x7b") => skip; repetitionRange; return some ()
    | _ => return none) ()

/-- Alternatives, each a sequence of repeated parts. -/
def rowPattern (r : Rules) : Parser Unit := do
  repeatedPattern r
  let _ ← iterate (fun (_ : Unit) => do
    if (← atSymbol ")") || (← atSymbol "|") then return none
    else
      repeatedPattern r
      return some ()) ()
  if ← symbol? "|" then r.rowPattern

/-- What follows MATCH_RECOGNIZE. -/
def matchRecognize (r : Rules) : Parser Unit := parenthesised do
  if ← keywords? ["PARTITION", "BY"] then
    let _ ← r.exprs
  let _ ← orderBy? r
  if ← keyword? "MEASURES" then
    let _ ← commaSeparated do
      let _ ← r.wholeExpr
      let _ ← keyword? "AS"
      name
  unless ← keywords? ["ONE", "ROW", "PER", "MATCH"] do
    if ← keywords? ["ALL", "ROWS", "PER", "MATCH"] then
      unless ← keywords? ["SHOW", "EMPTY", "MATCHES"] do
        unless ← keywords? ["OMIT", "EMPTY", "MATCHES"] do
          let _ ← keywords? ["WITH", "UNMATCHED", "ROWS"]
  if ← keywords? ["AFTER", "MATCH", "SKIP"] then
    unless ← keywords? ["PAST", "LAST", "ROW"] do
      unless ← keywords? ["TO", "NEXT", "ROW"] do
        expectKeyword "TO"
        let _ ← expectAnyKeyword ["FIRST", "LAST"]
        let _ ← name
  expectKeyword "PATTERN"
  parenthesised r.rowPattern
  expectKeyword "DEFINE"
  let _ ← commaSeparated do
    let _ ← name
    expectKeyword "AS"
    r.wholeExpr

/-! ## Table factors -/

/-- The alias of a factor that has no more to it. -/
def withAlias (r : Rules) (factor : Option String → TableFactor) : Parser TableFactor := do
  return factor (← tableAlias? r)

/-- The factor rotated by each PIVOT and UNPIVOT after it. -/
def rotated (r : Rules) (factor : TableFactor) : Parser TableFactor :=
  iterate (fun (_ : TableFactor) => do
    match ← anyKeyword? ["PIVOT", "UNPIVOT"] with
    | none => return none
    | some k =>
      if k == "PIVOT" then
        pivot r
        return some (← withAlias r (.other .pivot))
      else
        unpivot
        return some (← withAlias r (.other .unpivot))) factor

/-- The hints in WITH after a table, if they are there. -/
def hints? (r : Rules) : Parser Unit := do
  match ← peekAt 0, ← peekAt 1 with
  | some (.word w), some (.symbol "(") =>
    if w.keyword == "WITH" then
      skip
      let _ ← parenthesised r.exprs
  | _, _ => pure ()

/-- A table by its name, or a call in its place. -/
def namedTable (r : Rules) : Parser TableFactor := do
  let parts ← dottedName
  if ← inGrammar [.standard, .mySql] then
    if ← keyword? "PARTITION" then
      let _ ← nameList
  let isCall ← symbol? "("
  if isCall then tableArguments r
  let _ ← keywords? ["WITH", "ORDINALITY"]
  let correlation ← tableAlias? r
  hints? r
  let factor ← rotated r (.table parts isCall correlation)
  if ← inGrammar [.standard] then
    if ← keyword? "MATCH_RECOGNIZE" then
      matchRecognize r
      return ← withAlias r (.other .matchRecognize)
  return factor

/-- UNNEST after its keyword. -/
def unnest (r : Rules) : Parser TableFactor := do
  let _ ← parenthesised r.exprs
  let _ ← keywords? ["WITH", "ORDINALITY"]
  let correlation ← tableAlias? r
  if ← keyword? "WITH" then
    if ← keyword? "OFFSET" then
      let _ ← aliasName? Keyword.reservedForColumnAlias
  return .other .unnest correlation

/-- A query in parentheses after the opening one. -/
def derivedTable (r : Rules) : Parser TableFactor := do
  let _ ← r.query
  expectSymbol ")"
  withAlias r .derived

/-- The alias that stands after the parentheses around a single factor is the factor's own; it may
not have two. -/
def adoptAlias : TableFactor → Option String → Option TableFactor
  | factor, none => some factor
  | .table parts isCall none, outer => some (.table parts isCall outer)
  | .derived none, outer => some (.derived outer)
  | .nested inner none, outer => some (.nested inner outer)
  | .other kind none, outer => some (.other kind outer)
  | _, some _ => none

/-- What an opening parenthesis, which has been read, begins: a query if one can be read, otherwise
a join. A single factor in parentheses is a join of its own only if it is one already; the standard
grammar then looks through the parentheses, the others refuse them. -/
def parenthesisedFactor (r : Rules) : Parser TableFactor := do
  match ← attempt (derivedTable r) with
  | some factor => rotated r factor
  | none =>
    match ← r.chain with
    | .single factor =>
      match factor with
      | .nested _ _ =>
        expectSymbol ")"
        withAlias r (.nested (.single factor))
      | _ =>
        unless ← inGrammar [.standard] do refuse
        expectSymbol ")"
        match adoptAlias factor (← tableAlias? r) with
        | some factor => return factor
        | none => refuse
    | chain =>
      expectSymbol ")"
      withAlias r (.nested chain)

/-- A keyword with an opening parenthesis after it, both read if they are next. -/
def keywordCall? (k : String) : Parser Bool := do
  if (← atKeyword k) && isSymbol "(" (← peekAt 1) then
    skip
    skip
    return true
  else return false

/-- Rows of values stand in the place of a table here. -/
def atRows : Parser Bool := do
  return (← inGrammar [.standard]) && (← atKeyword "VALUES") && isSymbol "(" (← peekAt 1)

/-- One operand of a join. -/
def factor (r : Rules) : Parser TableFactor := do
  if ← keyword? "LATERAL" then
    if ← symbol? "(" then derivedTable r
    else
      let _ ← dottedName
      expectSymbol "("
      lateralArguments r
      withAlias r (.other .lateralCall)
  else if ← keyword? "TABLE" then
    let _ ← parenthesised r.wholeExpr
    withAlias r (.other .tableFunction)
  else if ← symbol? "(" then parenthesisedFactor r
  else if ← atRows then
    skip
    valuesRows r false
    withAlias r .derived
  else if ← keywordIn? [.standard, .postgres] "UNNEST" then unnest r
  else if ← keywordCall? "JSON_TABLE" then
    jsonTable r
    withAlias r (.other .jsonTable)
  else if ← keywordCall? "OPENJSON" then
    openJson r
    withAlias r (.other .openJson)
  else namedTable r

/-! ## Joins -/

/-- The join after LEFT or RIGHT, of the three that the side has. -/
def sidedJoin (ifOuter ifSemi ifAnti : JoinOperator) : Parser JoinOperator := do
  match ← expectAnyKeyword ["OUTER", "SEMI", "ANTI", "JOIN"] with
  | "JOIN" => return ifOuter
  | "OUTER" => expectKeyword "JOIN"; return ifOuter
  | "SEMI" => expectKeyword "JOIN"; return ifSemi
  | _ => expectKeyword "JOIN"; return ifAnti

/-- The keywords of a join that takes a condition, if they are next. -/
def conditionalJoin? (isNatural : Bool) : Parser (Option JoinOperator) := do
  match keywordOf (← peek) with
  | "INNER" => skip; expectKeyword "JOIN"; return some .inner
  | "JOIN" => skip; return some .inner
  | "LEFT" => skip; return some (← sidedJoin .leftOuter .leftSemi .leftAnti)
  | "RIGHT" => skip; return some (← sidedJoin .rightOuter .rightSemi .rightAnti)
  | "ANTI" => skip; expectKeyword "JOIN"; return some .anti
  | "SEMI" => skip; expectKeyword "JOIN"; return some .semi
  | "FULL" =>
    skip
    let _ ← keyword? "OUTER"
    expectKeyword "JOIN"
    return some .fullOuter
  | "OUTER" => refuse
  | _ => if isNatural then refuse else return none

/-- The condition of a join, if there is one. -/
def joinCondition? (r : Rules) : Parser Unit := do
  if ← keyword? "ON" then
    let _ ← r.wholeExpr
  else if ← keyword? "USING" then
    let _ ← nameList

/-- The next join and its right operand, if a join is next. -/
def join? (r : Rules) : Parser (Option (JoinOperator × TableFactor)) := do
  let _ ← keyword? "GLOBAL"
  if ← keyword? "CROSS" then
    match ← expectAnyKeyword ["JOIN", "APPLY"] with
    | "JOIN" => return some (.cross, ← factor r)
    | _ => return some (.crossApply, ← factor r)
  else if ← keyword? "OUTER" then
    expectKeyword "APPLY"
    return some (.outerApply, ← factor r)
  else if ← keyword? "ASOF" then
    expectKeyword "JOIN"
    let right ← factor r
    expectKeyword "MATCH_CONDITION"
    let _ ← parenthesised r.wholeExpr
    joinCondition? r
    return some (.asOf, right)
  else
    let isNatural ← keyword? "NATURAL"
    match ← conditionalJoin? isNatural with
    | none => return none
    | some op =>
      let right ← factor r
      unless isNatural do joinCondition? r
      return some (op, right)

/-- A table factor with the joins after it. -/
def chain (r : Rules) : Parser JoinChain := do
  let first ← factor r
  iterate (fun (left : JoinChain) => do
    match ← join? r with
    | some (op, right) => return some (.join left op right)
    | none => return none) (.single first)

end ColumnOrigin.Sql.Parser
