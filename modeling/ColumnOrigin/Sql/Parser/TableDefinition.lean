import ColumnOrigin.Sql.Parser.Change
import ColumnOrigin.Sql.Parser.ColumnDefinition

/-! Definitions of tables and views: CREATE TABLE, CREATE EXTERNAL TABLE and CREATE VIEW. -/

namespace ColumnOrigin.Sql.Parser

/-! ## Where and how the rows are stored -/

/-- The columns that tell the partitions of a table apart. -/
def partitionedBy? (r : Rules) : Parser Unit :=
  discard (after? ["PARTITIONED", "BY"] do
    let _ ← parenthesised (commaSeparated (columnDefinition r)))

/-- The buckets that the rows of a table go to. -/
def clusteredBy? (r : Rules) : Parser Unit := do
  if ← inGrammar [.standard] then
    if ← keywords? ["CLUSTERED", "BY"] then
      let _ ← nameList
      let _ ← after? ["SORTED", "BY"] (parenthesised (orderByItems r))
      expectKeyword "INTO"
      numberValue
      expectKeyword "BUCKETS"

/-- What marks the ends of fields and rows in a file. A word whose clause is not complete is lost,
and the list ends with it. -/
def rowDelimiters : Parser Unit := do
  let _ ← iterate (fun (going : Bool) => do
    if !going then return none
    match ← anyKeyword? ["FIELDS", "COLLECTION", "MAP", "LINES", "NULL"] with
    | none => return none
    | some "FIELDS" =>
      let found ← after? ["TERMINATED", "BY"] (discard name)
      if found then
        let _ ← after? ["ESCAPED", "BY"] (discard name)
      return some found
    | some "COLLECTION" => return some (← after? ["ITEMS", "TERMINATED", "BY"] (discard name))
    | some "MAP" => return some (← after? ["KEYS", "TERMINATED", "BY"] (discard name))
    | some "LINES" => return some (← after? ["TERMINATED", "BY"] (discard name))
    | some _ => return some (← after? ["DEFINED", "AS"] (discard name))) true

/-- How a row is written, after ROW. -/
def rowFormat : Parser Unit := do
  expectKeyword "FORMAT"
  match ← anyKeyword? ["SERDE", "DELIMITED"] with
  | some "SERDE" => let _ ← textLiteral
  | _ => rowDelimiters

/-- The format of a table's files, after STORED. -/
def storageFormat (r : Rules) : Parser Unit := do
  expectKeyword "AS"
  if ← keyword? "INPUTFORMAT" then
    let _ ← r.wholeExpr
    expectKeyword "OUTPUTFORMAT"
    let _ ← r.wholeExpr
  else fileFormat

/-- The formats and the place of a table's files. -/
def storageClauses (r : Rules) : Parser Unit := eachTime do
  match ← anyKeyword? ["ROW", "STORED", "LOCATION"] with
  | some "ROW" => rowFormat; return true
  | some "STORED" => storageFormat r; return true
  | some _ =>
    let _ ← textLiteral
    return true
  | none => options? r ["WITH", "SERDEPROPERTIES"]

/-! ## Clauses of CREATE TABLE -/

/-- A word after a sign of equality. -/
def equalsWord : Parser Unit := do
  expectSymbol "="
  match ← next with
  | some (.word _) => pure ()
  | _ => refuse

/-- The engine of a table with its parameters, after ENGINE. -/
def engine : Parser Unit := do
  equalsWord
  let _ ← nameList?

/-- The first number that a table counts from, after AUTO_INCREMENT. -/
def firstNumber : Parser Unit := do
  let _ ← symbol? "="
  let _ ← numeral 32

/-- The order of a table's rows, after ORDER BY. -/
def tableOrder (r : Rules) : Parser Unit := do
  if ← atSymbol "(" then
    let _ ← parenthesised (commaSeparatedUntil ")" r.wholeExpr)
  else
    let _ ← r.wholeExpr

/-- What becomes of the rows of a temporary table, after ON COMMIT. -/
def onCommit : Parser Unit := do
  unless ← anyKeywords? [["DELETE", "ROWS"], ["PRESERVE", "ROWS"], ["DROP"]] do refuse

def tableComment : Parser Unit := do
  let _ ← symbol? "="
  stringLiteral

/-- How the rows of a table are kept apart and together. -/
def tableLayout (r : Rules) : Parser Unit := do
  if ← inGrammar [.standard] then
    let _ ← after? ["PRIMARY", "KEY"] (discard r.wholeExpr)
  let _ ← after? ["ORDER", "BY"] (tableOrder r)
  if ← inGrammar [.standard, .postgres] then
    let _ ← after? ["PARTITION", "BY"] (discard r.wholeExpr)
  if ← inGrammar [.standard] then
    let _ ← after? ["CLUSTER", "BY"] (discard (commaSeparated name))
    let _ ← options? r ["OPTIONS"]

/-- The query that fills a new table, if there is one. -/
def tableSource? (r : Rules) : Parser Unit := do
  if ← keyword? "AS" then
    let _ ← r.query
  else if (← inGrammar [.mySql]) && (← atKeyword "SELECT") then
    let _ ← r.query

/-- CREATE TABLE after those words. -/
def createTable (r : Rules) : Parser Unit := do
  ifNotExists?
  let _ ← dottedName
  onCluster?
  if (← anyKeyword? ["LIKE", "ILIKE"]).isSome then looseName
  if ← keyword? "CLONE" then looseName
  tableElements? r
  let _ ← keywords? ["WITHOUT", "ROWID"]
  partitionedBy? r
  clusteredBy? r
  storageClauses r
  let _ ← options? r ["WITH"]
  let _ ← options? r ["TBLPROPERTIES"]
  let _ ← after? ["ENGINE"] engine
  let _ ← after? ["AUTO_INCREMENT"] firstNumber
  tableLayout r
  let _ ← after? ["DEFAULT", "CHARSET"] equalsWord
  let _ ← after? ["COLLATE"] equalsWord
  let _ ← after? ["ON", "COMMIT"] onCommit
  let _ ← keyword? "STRICT"
  let _ ← after? ["COMMENT"] tableComment
  tableSource? r

/-- CREATE EXTERNAL TABLE after the second word. -/
def createExternalTable (r : Rules) : Parser Unit := do
  expectKeyword "TABLE"
  ifNotExists?
  let _ ← dottedName
  tableElements? r
  partitionedBy? r
  storageClauses r
  let _ ← options? r ["TBLPROPERTIES"]

/-! ## Views -/

/-- A column of a view. In the standard grammar it may have an option. -/
def viewColumn (r : Rules) : Parser Unit := do
  let _ ← name
  if ← inGrammar [.standard] then
    if ← atKeywords ["OPTIONS", "COMMENT"] then
      let _ ← columnOption? r

/-- The clauses between the columns and the query of a view that only the standard grammar has. -/
def viewClauses (r : Rules) : Parser Unit := do
  let _ ← options? r ["OPTIONS"]
  let _ ← after? ["TO"] (discard dottedName)
  let _ ← after? ["COMMENT"] (do expectSymbol "="; stringLiteral)

/-- CREATE VIEW, perhaps of a materialized one, after CREATE. -/
def createView (r : Rules) : Parser Unit := do
  let standard ← inGrammar [.standard]
  let _ ← keyword? "MATERIALIZED"
  expectKeyword "VIEW"
  if standard then ifNotExists?
  let _ ← dottedName
  if ← atSymbol "(" then
    let _ ← parenthesised (commaSeparatedUntil ")" (viewColumn r))
  let _ ← options? r ["WITH"]
  if ← keyword? "CLUSTER" then
    expectKeyword "BY"
    let _ ← nameList?
  if standard then viewClauses r
  expectKeyword "AS"
  let _ ← r.query
  if standard then
    let _ ← keywords? ["WITH", "NO", "SCHEMA", "BINDING"]

end ColumnOrigin.Sql.Parser
