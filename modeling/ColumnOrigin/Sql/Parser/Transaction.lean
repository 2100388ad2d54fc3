import ColumnOrigin.Sql.Parser.Query

/-! Statements about the run of other statements: transactions, cursors and prepared statements. -/

namespace ColumnOrigin.Sql.Parser

/-! ## Transactions -/

def transactionMode? : Parser Bool := do
  if ← keywords? ["ISOLATION", "LEVEL"] then
    unless ← anyKeywords? [["READ", "UNCOMMITTED"], ["READ", "COMMITTED"], ["REPEATABLE", "READ"],
        ["SERIALIZABLE"]] do refuse
    return true
  else anyKeywords? [["READ", "ONLY"], ["READ", "WRITE"]]

/-- The properties of a transaction. A comma between two of them may be missing. -/
def transactionModes : Parser Unit := do
  let _ ← iterate (fun (needed : Bool) => do
    if ← transactionMode? then return some (← symbol? ",")
    else if needed then refuse
    else return none) false

/-- BEGIN after its keyword. -/
def beginTransaction : Parser Unit := do
  if ← inGrammar [.standard] then
    let _ ← anyKeyword? ["DEFERRED", "IMMEDIATE", "EXCLUSIVE"]
  let _ ← anyKeyword? ["TRANSACTION", "WORK"]
  transactionModes

/-- START TRANSACTION after its first keyword. -/
def startTransaction : Parser Unit := do
  expectKeyword "TRANSACTION"
  transactionModes

/-- What may follow COMMIT and ROLLBACK. -/
def transactionEnd : Parser Unit := do
  let _ ← anyKeyword? ["TRANSACTION", "WORK"]
  if ← keyword? "AND" then
    let _ ← keyword? "NO"
    expectKeyword "CHAIN"

/-- ROLLBACK after its keyword. -/
def rollback : Parser Unit := do
  transactionEnd
  if ← keyword? "TO" then
    let _ ← keyword? "SAVEPOINT"
    let _ ← name

/-- RELEASE after its keyword. -/
def release : Parser Unit := do
  let _ ← keyword? "SAVEPOINT"
  let _ ← name

/-! ## Cursors -/

/-- DECLARE after its keyword. -/
def declareCursor (r : Rules) : Parser Unit := do
  let _ ← name
  let _ ← keyword? "BINARY"
  let _ ← anyKeyword? ["INSENSITIVE", "ASENSITIVE"]
  let _ ← anyKeywords? [["SCROLL"], ["NO", "SCROLL"]]
  expectKeyword "CURSOR"
  if (← anyKeyword? ["WITH", "WITHOUT"]).isSome then expectKeyword "HOLD"
  expectKeyword "FOR"
  let _ ← r.query

/-- Which rows a FETCH is for. -/
def fetchDirection : Parser Unit := do
  match ← anyKeyword? ["NEXT", "PRIOR", "FIRST", "LAST", "ALL", "ABSOLUTE", "RELATIVE", "FORWARD",
      "BACKWARD"] with
  | none => numberValue
  | some k =>
    if k == "ABSOLUTE" || k == "RELATIVE" then numberValue
    else if k == "FORWARD" || k == "BACKWARD" then
      unless ← keyword? "ALL" do numberValue

/-- FETCH after its keyword. -/
def fetchRows : Parser Unit := do
  fetchDirection
  let _ ← expectAnyKeyword ["FROM", "IN"]
  let _ ← name
  let _ ← after? ["INTO"] (discard dottedName)

/-- CLOSE after its keyword. -/
def closeCursor : Parser Unit := do
  unless ← keyword? "ALL" do
    let _ ← name

/-! ## Prepared statements and procedures -/

/-- PREPARE after its keyword. -/
def prepare (r : Rules) : Parser Unit := do
  let _ ← name
  if ← atSymbol "(" then
    let _ ← parenthesised (commaSeparated r.wholeType)
  expectKeyword "AS"
  let _ ← r.statement

/-- The values for the parameters of a prepared statement, with parentheses or without. -/
def parameterValues (r : Rules) : Parser Unit := do
  if ← atSymbol "(" then
    let _ ← parenthesised (commaSeparatedUntil ")" r.wholeExpr)
  else
    let ends := (← peek).isNone || (← atSymbol ";") || (← atKeyword "USING")
    unless ends do
      let _ ← r.exprs

/-- EXECUTE after its keyword. -/
def execute (r : Rules) : Parser Unit := do
  let _ ← dottedName
  parameterValues r
  let _ ← after? ["USING"] (discard r.exprs)

/-- DEALLOCATE after its keyword. -/
def deallocate : Parser Unit := do
  let _ ← keyword? "PREPARE"
  let _ ← name

/-- CALL after its keyword. -/
def callProcedure (r : Rules) : Parser Unit := do
  let _ ← dottedName
  if ← atSymbol "(" then call r

/-- ASSERT after its keyword. -/
def assertion (r : Rules) : Parser Unit := do
  let _ ← r.wholeExpr
  let _ ← exprAfter? r "AS"

end ColumnOrigin.Sql.Parser
