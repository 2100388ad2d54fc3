import ColumnOrigin.Sql.Parser.Operator
import ColumnOrigin.Sql.Parser.Table

/-! Queries: the projection, the clauses of a SELECT, set operations and what stands around them. -/

namespace ColumnOrigin.Sql.Parser

/-! ## The projection -/

/-- EXCLUDE, EXCEPT, REPLACE and RENAME after a wildcard. -/
def wildcardOptions (r : Rules) : Parser Unit := do
  if ← inGrammar [.standard] then
    if ← keyword? "ILIKE" then stringLiteral
    else if ← keyword? "EXCLUDE" then nameOrList
    if ← keyword? "EXCEPT" then nameOrList
    if ← keyword? "REPLACE" then
      let _ ← parenthesised (commaSeparated do
        let _ ← r.wholeExpr
        let _ ← keyword? "AS"
        name)
    if ← keyword? "RENAME" then
      if ← atSymbol "(" then
        let _ ← parenthesised (commaSeparated renamed)
      else renamed
where
  nameOrList : Parser Unit := do
    if ← atSymbol "(" then
      let _ ← nameList
    else
      let _ ← name
  renamed : Parser Unit := do
    let _ ← name
    expectKeyword "AS"
    let _ ← name

/-- An item of the projection. The word FROM alone is none. -/
def selectItem (r : Rules) : Parser SelectItem := do
  let startsWithFrom ← atKeyword "FROM"
  match ← wildcardExpr r with
  | .wildcard => wildcardOptions r; return .wildcard
  | .qualified qualifier => wildcardOptions r; return .qualifiedWildcard qualifier
  | .expr e =>
    match e with
    | .column [_] => if startsWithFrom then refuse
    | _ => pure ()
    match ← aliasName? Keyword.reservedForColumnAlias with
    | some a => return .aliased e a
    | none => return .unnamed e

/-! ## The clauses of a SELECT -/

/-- TOP after its keyword. -/
def top (r : Rules) : Parser Unit := do
  if ← atSymbol "(" then
    let _ ← parenthesised r.wholeExpr
  else
    let _ ← naturalLiteral
  let _ ← keyword? "PERCENT"
  let _ ← keywords? ["WITH", "TIES"]

/-- ALL, DISTINCT or DISTINCT ON, if one is there. -/
def distinct? (r : Rules) : Parser Unit := do
  let all ← keyword? "ALL"
  if ← keyword? "DISTINCT" then
    if all then refuse
    if ← keyword? "ON" then
      let _ ← parenthesised (commaSeparatedUntil ")" r.wholeExpr)

/-- INTO with the table to fill, if it is there. -/
def into? : Parser Unit := do
  if ← keyword? "INTO" then
    let _ ← anyKeyword? ["TEMP", "TEMPORARY"]
    let _ ← keyword? "UNLOGGED"
    let _ ← keyword? "TABLE"
    let _ ← dottedName

def lateralViews (r : Rules) : Parser Unit := do
  let _ ← iterate (fun (_ : Unit) => do
    if ← keywords? ["LATERAL", "VIEW"] then
      let _ ← keyword? "OUTER"
      let _ ← r.wholeExpr
      let _ ← dottedName
      let _ ← commaSeparated (aliasName? Keyword.reservedForLateralView)
      return some ()
    else return none) ()

/-- A list of expressions in parentheses, or one expression where `mayBeSingle` is set. -/
def tuple (r : Rules) (mayBeSingle : Bool) : Parser Unit := do
  if mayBeSingle && !(← atSymbol "(") then
    let _ ← r.wholeExpr
  else
    let _ ← parenthesised (commaSeparatedUntil ")" r.wholeExpr)

/-- An item of GROUP BY. -/
def groupByItem (r : Rules) : Parser Unit := do
  if ← inGrammar [.mySql] then
    let _ ← r.wholeExpr
  else if ← keywords? ["GROUPING", "SETS"] then
    let _ ← parenthesised (commaSeparated (tuple r false))
  else if (← anyKeyword? ["CUBE", "ROLLUP"]).isSome then
    let _ ← parenthesised (commaSeparated (tuple r true))
  else if isSymbol "(" (← peekAt 0) && isSymbol ")" (← peekAt 1) then
    skip
    skip
  else
    let _ ← r.wholeExpr

def groupBy? (r : Rules) : Parser Unit := do
  if ← keywords? ["GROUP", "BY"] then
    unless ← keyword? "ALL" do
      let _ ← commaSeparated (groupByItem r)
    if ← inGrammar [.standard] then
      let _ ← iterate (fun (_ : Unit) => do
        if ← keyword? "WITH" then
          let _ ← expectAnyKeyword ["ROLLUP", "CUBE", "TOTALS"]
          return some ()
        else return none) ()

/-- A list of expressions after two keywords, if they are there. -/
def exprsAfter? (r : Rules) (ks : List String) : Parser Unit := do
  if ← keywords? ks then
    let _ ← r.exprs

/-- An expression after a keyword, if it is there. -/
def exprAfter? (r : Rules) (k : String) : Parser Bool := do
  if ← keyword? k then
    let _ ← r.wholeExpr
    return true
  else return false

/-- A window with a name. -/
def namedWindow (r : Rules) : Parser Unit := do
  let _ ← name
  expectKeyword "AS"
  if ← symbol? "(" then windowSpec r
  else
    unless ← inGrammar [.standard] do refuse
    let _ ← name

/-- WINDOW and QUALIFY, in either order. -/
def windowsAndQualify (r : Rules) : Parser Unit := do
  if ← windows? then
    let _ ← exprAfter? r "QUALIFY"
  else if ← exprAfter? r "QUALIFY" then
    let _ ← windows?
where
  windows? : Parser Bool := do
    if ← keyword? "WINDOW" then
      let _ ← commaSeparated (namedWindow r)
      return true
    else return false

/-- START WITH and CONNECT BY, in either order. -/
def connectBy? (r : Rules) : Parser Unit := do
  if ← atKeyword "CONNECT" then
    relations
    start
  else if ← atKeyword "START" then
    start
    relations
where
  start : Parser Unit := do
    expectKeywords ["START", "WITH"]
    let _ ← r.wholeExpr
  relations : Parser Unit := do
    expectKeywords ["CONNECT", "BY"]
    let _ ← withReader (fun s => { s with inConnectBy := true }) r.exprs

/-- A SELECT without what may follow a query of any kind. -/
def select (r : Rules) : Parser Select := do
  expectKeyword "SELECT"
  distinct? r
  if ← keyword? "TOP" then top r
  let projection ← commaSeparated (selectItem r)
  into?
  let sources ← if ← keyword? "FROM" then commaSeparated r.chain else pure []
  lateralViews r
  if ← inGrammar [.standard] then
    let _ ← exprAfter? r "PREWHERE"
  let _ ← exprAfter? r "WHERE"
  groupBy? r
  exprsAfter? r ["CLUSTER", "BY"]
  exprsAfter? r ["DISTRIBUTE", "BY"]
  exprsAfter? r ["SORT", "BY"]
  let _ ← exprAfter? r "HAVING"
  windowsAndQualify r
  if ← inGrammar [.standard] then connectBy? r
  return { projection, sources }

/-! ## Set operations -/

/-- How strongly a set operator binds. -/
def setOperatorLevel : String → Option Nat
  | "UNION" => some 10
  | "EXCEPT" => some 10
  | "INTERSECT" => some 20
  | _ => none

/-- ALL, DISTINCT and BY NAME after a set operator. -/
def setQuantifier : Parser Unit := do
  unless ← keywords? ["DISTINCT", "BY", "NAME"] do
    unless ← keywords? ["BY", "NAME"] do
      if ← keyword? "ALL" then
        let _ ← keywords? ["BY", "NAME"]
      else
        let _ ← keyword? "DISTINCT"

/-- A table as a query, after its keyword. Three tokens are read whatever the last two are. -/
def tableQuery : Parser Unit := do
  let isWord : Option Token → Bool := fun
    | some (.word _) => true
    | _ => false
  let first ← next
  let second ← next
  let third ← next
  unless isWord first do refuse
  if isSymbol "." second then unless isWord third do refuse

/-- A query without set operators at its top. -/
def simpleBody (r : Rules) : Parser Query := do
  if ← atKeyword "SELECT" then return .select false (← select r)
  else if ← symbol? "(" then
    let inner ← r.query
    expectSymbol ")"
    return .parenthesised false inner
  else if ← keyword? "VALUES" then
    valuesRows r (← inGrammar [.mySql])
    return .other false
  else if ← keyword? "TABLE" then
    tableQuery
    return .other false
  else refuse

/-- A query up to a set operator that binds no stronger than `level`. -/
def body (r : Rules) (level : Nat) : Parser Query := do
  let first ← simpleBody r
  iterate (fun (_ : Query) => do
    match setOperatorLevel (keywordOf (← peek)) with
    | none => return none
    | some next =>
      if next ≤ level then return none
      else
        skip
        setQuantifier
        let _ ← r.body next
        return some (.other false)) first

/-! ## Around the body -/

/-- A common table expression. -/
def commonTable (r : Rules) : Parser Unit := do
  let _ ← name
  unless ← keyword? "AS" do
    aliasColumns? r
    expectKeyword "AS"
  if ← inGrammar [.postgres] then
    unless ← keyword? "MATERIALIZED" do
      let _ ← keywords? ["NOT", "MATERIALIZED"]
  let _ ← parenthesised r.query
  if ← keyword? "FROM" then
    let _ ← name

/-- WITH and its common table expressions, if they are there. -/
def with? (r : Rules) : Parser Bool := do
  if ← keyword? "WITH" then
    let _ ← keyword? "RECURSIVE"
    let _ ← commaSeparated (commonTable r)
    return true
  else return false

/-- ORDER BY of a whole query. -/
def queryOrder? (r : Rules) : Parser Unit := do
  if ← orderBy? r then
    if ← inGrammar [.standard] then
      if ← keyword? "INTERPOLATE" then
        if ← symbol? "(" then
          let _ ← commaSeparatedUntil ")" do
            let _ ← name
            if ← keyword? "AS" then
              let _ ← r.wholeExpr
          expectSymbol ")"

/-- LIMIT and OFFSET, in either order, each once. LIMIT ALL does not count, and where two numbers
may follow LIMIT the first is an offset. -/
def limits (r : Rules) : Parser Unit := do
  let found ← round (false, false)
  let _ ← round found
where
  round : Bool × Bool → Parser (Bool × Bool)
    | (hasLimit, hasOffset) => do
      let mut hasLimit := hasLimit
      let mut hasOffset := hasOffset
      if !hasLimit then
        if ← keyword? "LIMIT" then
          unless ← keyword? "ALL" do
            let _ ← r.wholeExpr
            hasLimit := true
      if !hasOffset then
        if ← keyword? "OFFSET" then
          let _ ← r.wholeExpr
          let _ ← anyKeyword? ["ROW", "ROWS"]
          hasOffset := true
      if hasLimit && !hasOffset then
        if ← inGrammar [.standard, .mySql] then
          if ← symbol? "," then
            let _ ← r.wholeExpr
            hasOffset := true
      return (hasLimit, hasOffset)

/-- FETCH, if it is there. -/
def fetch? : Parser Unit := do
  if ← keyword? "FETCH" then
    let _ ← expectAnyKeyword ["FIRST", "NEXT"]
    if (← anyKeyword? ["ROW", "ROWS"]).isNone then
      value
      let _ ← keyword? "PERCENT"
      let _ ← expectAnyKeyword ["ROW", "ROWS"]
    unless ← keyword? "ONLY" do expectKeywords ["WITH", "TIES"]

/-- A document clause FOR XML, FOR JSON or FOR BROWSE after FOR, if it is there. -/
def documentClause? : Parser Bool := do
  if ← keyword? "XML" then
    match ← expectAnyKeyword ["RAW", "AUTO", "EXPLICIT", "PATH"] with
    | "RAW" => elementName?
    | "PATH" => elementName?
    | _ => pure ()
    let _ ← iterate (fun (_ : Unit) => do
      if ← symbol? "," then
        match ← anyKeyword? ["TYPE", "BINARY", "ELEMENTS", "ROOT"] with
        | some "BINARY" => expectKeyword "BASE64"
        | some "ROOT" => textInParentheses
        | _ => pure ()
        return some ()
      else return none) ()
    return true
  else if ← keyword? "JSON" then
    let _ ← expectAnyKeyword ["AUTO", "PATH"]
    let _ ← iterate (fun (_ : Unit) => do
      if ← symbol? "," then
        match ← anyKeyword? ["ROOT", "INCLUDE_NULL_VALUES", "WITHOUT_ARRAY_WRAPPER"] with
        | some "ROOT" => textInParentheses
        | _ => pure ()
        return some ()
      else return none) ()
    return true
  else keyword? "BROWSE"
where
  textInParentheses : Parser Unit := discard (parenthesised textLiteral)
  elementName? : Parser Unit := do
    if ← atSymbol "(" then textInParentheses

/-- A row lock after FOR. -/
def lock : Parser Unit := do
  let _ ← expectAnyKeyword ["UPDATE", "SHARE"]
  if ← keyword? "OF" then
    let _ ← dottedName
  unless ← keyword? "NOWAIT" do
    let _ ← keywords? ["SKIP", "LOCKED"]

def forClauses : Parser Unit := do
  let _ ← iterate (fun (done : Bool) => do
    if done then return none
    else if ← keyword? "FOR" then
      if ← documentClause? then return some true
      else
        lock
        return some false
    else return none) false

/-- What may follow the body of a query. -/
def queryTail (r : Rules) : Parser Unit := do
  queryOrder? r
  limits r
  let standard ← inGrammar [.standard]
  if standard then
    if ← keyword? "BY" then
      let _ ← r.exprs
    if ← keyword? "SETTINGS" then settings
  fetch?
  forClauses
  if standard then
    if ← keyword? "FORMAT" then
      unless ← keyword? "NULL" do
        let _ ← name

/-- A query. It is a level of its own. After WITH a change of data may stand in the place of the
body; `change` reads what follows its keyword. -/
def query (r : Rules) (change : String → Parser Unit) : Parser Query := deeper do
  let hasWith ← with? r
  match ← anyKeyword? ["INSERT", "UPDATE"] with
  | some k =>
    change k
    return .other hasWith
  | none =>
    let q ← r.body 0
    queryTail r
    return q.startingWith hasWith

end ColumnOrigin.Sql.Parser
