import ColumnOrigin.Sql.Parser.Options
import ColumnOrigin.Sql.Parser.Query

/-! Statements that change the rows of tables. Nothing of them is kept; it only matters whether
they are statements. -/

namespace ColumnOrigin.Sql.Parser

/-! ## Parts that several statements share -/

/-- The items after RETURNING, if it is there. -/
def returning? (r : Rules) : Parser Unit := do
  if ← keyword? "RETURNING" then
    let _ ← commaSeparated (selectItem r)

/-- A new value for a column, or for several at once. -/
def assignment (r : Rules) : Parser Unit := do
  if ← atSymbol "(" then
    let _ ← parenthesised (commaSeparated dottedName)
  else
    let _ ← dottedName
  expectSymbol "="
  let _ ← r.wholeExpr

def assignments (r : Rules) : Parser Unit := do
  let _ ← commaSeparated (assignment r)

/-- What to do about a row that is there already, before the name of the table. -/
def conflictPolicy? : Parser Unit := discard (anyKeywords? [
  ["OR", "REPLACE"], ["OR", "ROLLBACK"], ["OR", "ABORT"], ["OR", "FAIL"], ["OR", "IGNORE"],
  ["REPLACE"]])

/-- The partition of a table that a statement is about, if it names one. -/
def partition? (r : Rules) : Parser Bool :=
  after? ["PARTITION"] (discard (parenthesised r.exprs))

/-- A list of names in parentheses, if there is one. MySQL takes an empty one. -/
def insertColumns? : Parser Unit := do
  let mayBeEmpty := (← inGrammar [.mySql]) && isSymbol ")" (← peekAt 1)
  if mayBeEmpty && (← atSymbol "(") then
    skip
    skip
  else
    let _ ← nameList?

/-- The format of the files of a table. -/
def fileFormat : Parser Unit := discard (expectAnyKeyword [
  "AVRO", "JSONFILE", "ORC", "PARQUET", "RCFILE", "SEQUENCEFILE", "TEXTFILE"])

/-! ## INSERT -/

/-- What to do with a row that is there already, after ON. -/
def conflictClause (r : Rules) : Parser Unit := do
  if ← keyword? "CONFLICT" then
    if ← keywords? ["ON", "CONSTRAINT"] then
      let _ ← dottedName
    else if ← atSymbol "(" then
      let _ ← nameList
    expectKeyword "DO"
    unless ← keyword? "NOTHING" do
      expectKeywords ["UPDATE", "SET"]
      assignments r
      let _ ← exprAfter? r "WHERE"
  else
    expectKeywords ["DUPLICATE", "KEY", "UPDATE"]
    assignments r

/-- An INSERT into files, from the path on. -/
def insertIntoDirectory (r : Rules) : Parser Unit := do
  let _ ← textLiteral
  let _ ← after? ["STORED", "AS"] fileFormat
  let _ ← r.query

/-- The rows of an INSERT with the columns they are for. -/
def insertSource (r : Rules) : Parser Unit := do
  unless ← keywords? ["DEFAULT", "VALUES"] do
    let startsQuery := isSymbol "(" (← peekAt 0) && keywordOf (← peekAt 1) == "SELECT"
    unless startsQuery do
      insertColumns?
      let _ ← partition? r
    let _ ← r.query

/-- An INSERT into a table, from the table on. -/
def insertIntoTable (r : Rules) : Parser Unit := do
  let _ ← keyword? "TABLE"
  let _ ← dottedName
  if ← inGrammar [.postgres] then aliasAfterAs?
  insertSource r
  if ← inGrammar [.standard, .mySql] then
    if ← keyword? "AS" then
      let _ ← dottedName
      let _ ← nameList?
  if ← keyword? "ON" then conflictClause r
  returning? r

/-- INSERT after its keyword. -/
def insert (r : Rules) : Parser Unit := do
  conflictPolicy?
  if ← inGrammar [.standard, .mySql] then
    let _ ← anyKeyword? ["LOW_PRIORITY", "DELAYED", "HIGH_PRIORITY"]
    let _ ← keyword? "IGNORE"
  let _ ← keyword? "OVERWRITE"
  let _ ← keyword? "INTO"
  let _ ← keyword? "LOCAL"
  if ← keyword? "DIRECTORY" then insertIntoDirectory r
  else insertIntoTable r

/-- REPLACE after its keyword. -/
def replace (r : Rules) : Parser Unit := do
  if ← inGrammar [.standard, .mySql] then insert r else refuse

/-! ## UPDATE, DELETE and TRUNCATE -/

/-- UPDATE after its keyword. MySQL loses the word FROM. -/
def update (r : Rules) : Parser Unit := do
  conflictPolicy?
  let _ ← r.chain
  expectKeyword "SET"
  assignments r
  if ← keyword? "FROM" then
    if ← inGrammar [.standard, .postgres] then
      let _ ← r.chain
  let _ ← exprAfter? r "WHERE"
  returning? r

/-- DELETE after its keyword. -/
def delete (r : Rules) : Parser Unit := do
  unless ← keyword? "FROM" do
    unless ← inGrammar [.standard] do
      let _ ← commaSeparated dottedName
      expectKeyword "FROM"
  let _ ← commaSeparated r.chain
  if ← keyword? "USING" then
    let _ ← commaSeparated r.chain
  let _ ← exprAfter? r "WHERE"
  returning? r
  let _ ← orderBy? r
  if ← keyword? "LIMIT" then
    unless ← keyword? "ALL" do
      let _ ← r.wholeExpr

/-- INSERT or UPDATE after its keyword. -/
def change (r : Rules) (k : String) : Parser Unit :=
  if k == "INSERT" then insert r else update r

/-- TRUNCATE after its keyword. -/
def truncate (r : Rules) : Parser Unit := do
  let _ ← keyword? "TABLE"
  let _ ← keyword? "ONLY"
  let _ ← commaSeparated dottedName
  let _ ← partition? r
  if ← inGrammar [.standard, .postgres] then
    let _ ← anyKeywords? [["RESTART", "IDENTITY"], ["CONTINUE", "IDENTITY"]]
    let _ ← anyKeyword? ["CASCADE", "RESTRICT"]
  onCluster?

/-! ## MERGE -/

/-- What a MERGE does with a row that has no counterpart in the target: it inserts one. -/
def mergeInsert (r : Rules) : Parser Unit := do
  insertColumns?
  unless ← keywordIn? [.standard] "ROW" do
    expectKeyword "VALUES"
    valuesRows r (← inGrammar [.mySql])

/-- A clause of MERGE, after WHEN. -/
def mergeClause (r : Rules) : Parser Unit := do
  let isNegated ← keyword? "NOT"
  expectKeyword "MATCHED"
  let lacksTarget ←
    if isNegated then
      if ← keywords? ["BY", "SOURCE"] then pure false
      else
        let _ ← keywords? ["BY", "TARGET"]
        pure true
    else pure false
  let _ ← exprAfter? r "AND"
  expectKeyword "THEN"
  if lacksTarget then
    expectKeyword "INSERT"
    mergeInsert r
  else if ← keyword? "UPDATE" then
    expectKeyword "SET"
    assignments r
  else expectKeyword "DELETE"

/-- MERGE after its keyword. Its clauses end where the statement does. -/
def merge (r : Rules) : Parser Unit := do
  let _ ← keyword? "INTO"
  let _ ← factor r
  expectKeyword "USING"
  let _ ← factor r
  expectKeyword "ON"
  let _ ← r.wholeExpr
  eachTime do
    if (← peek).isNone || (← atSymbol ";") then return false
    else
      expectKeyword "WHEN"
      mergeClause r
      return true

end ColumnOrigin.Sql.Parser
