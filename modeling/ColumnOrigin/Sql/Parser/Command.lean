import ColumnOrigin.Sql.Parser.Alteration
import ColumnOrigin.Sql.Parser.Copy
import ColumnOrigin.Sql.Parser.Maintenance
import ColumnOrigin.Sql.Parser.Privilege
import ColumnOrigin.Sql.Parser.Setting

/-! Statements as a whole. Of those that are no query nothing is kept; it only matters whether they
are statements. -/

namespace ColumnOrigin.Sql.Parser

/-! ## EXPLAIN -/

/-- The options in parentheses after EXPLAIN. -/
def explainOptions (r : Rules) : Parser Unit :=
  discard (parenthesised (commaSeparated do
    let _ ← name
    let ends := (← atSymbol ",") || (← atSymbol ")")
    unless ends do
      let _ ← r.wholeExpr))

/-- What to explain, and how, before the statement itself. -/
def explainWords : Parser Unit := do
  unless ← keywords? ["QUERY", "PLAN"] do
    let _ ← keyword? "ANALYZE"
    let _ ← keyword? "VERBOSE"
    if ← keyword? "FORMAT" then
      let _ ← expectAnyKeyword ["TEXT", "GRAPHVIZ", "JSON"]

/-- EXPLAIN, DESCRIBE or DESC after its keyword `k`: a statement that is none of these, or a
table. -/
def explain (r : Rules) (k : String) : Parser Unit := do
  let hasOptions := k == "EXPLAIN" && (← grammar) != .mySql
  if hasOptions && (← atSymbol "(") then explainOptions r else explainWords
  let explainsItself ← atKeywords ["EXPLAIN", "DESCRIBE", "DESC"]
  match ← attempt r.statement with
  | some _ => if explainsItself then refuse
  | none =>
    let _ ← anyKeyword? ["EXTENDED", "FORMATTED"]
    let _ ← dottedName

/-! ## Statements -/

/-- A statement that changes rows or definitions, after its keyword `k`, if that begins one. -/
def changeCommand? (r : Rules) (k : String) : Parser Bool := do
  let done : Parser Unit → Parser Bool := fun p => do p; return true
  match k with
  | "INSERT" => done (insert r)
  | "REPLACE" => done (replace r)
  | "UPDATE" => done (update r)
  | "DELETE" => done (delete r)
  | "MERGE" => done (merge r)
  | "TRUNCATE" => done (truncate r)
  | "CREATE" => done (create r)
  | "ALTER" => done (alter r)
  | "DROP" => done (drop r)
  | "GRANT" => done grant
  | "REVOKE" => done revoke
  | "COPY" => done (copy r)
  | "UNLOAD" => done (unload r)
  | _ => return false

/-- A statement about a session or the run of other statements, after its keyword `k`, if that
begins one. -/
def sessionCommand? (r : Rules) (k : String) : Parser Bool := do
  let done : Parser Unit → Parser Bool := fun p => do p; return true
  match k with
  | "BEGIN" => done beginTransaction
  | "START" => done startTransaction
  | "COMMIT" => done transactionEnd
  | "END" => done transactionEnd
  | "ROLLBACK" => done rollback
  | "SAVEPOINT" => done (discard name)
  | "RELEASE" => done release
  | "DECLARE" => done (declareCursor r)
  | "FETCH" => done fetchRows
  | "CLOSE" => done closeCursor
  | "PREPARE" => done (prepare r)
  | "EXECUTE" => done (execute r)
  | "EXEC" => done (execute r)
  | "DEALLOCATE" => done deallocate
  | "CALL" => done (callProcedure r)
  | "ASSERT" => done (assertion r)
  | "SET" => done (setCommand r)
  | "SHOW" => done (showCommand r)
  | "USE" => done (discard dottedName)
  | "EXPLAIN" => done (explain r k)
  | "DESCRIBE" => done (explain r k)
  | "DESC" => done (explain r k)
  | _ => return false

/-- A statement about the upkeep of a database, after its keyword `k`. -/
def upkeepCommand (r : Rules) (k : String) : Parser Unit := do
  match k with
  | "ANALYZE" => analyze r
  | "MSCK" => repair
  | "OPTIMIZE" => optimize r
  | "CACHE" => cacheTable r
  | "UNCACHE" => uncacheTable
  | "KILL" => kill
  | "FLUSH" => flush
  | "DISCARD" => discardCommand
  | "ATTACH" => attach r
  | "DETACH" => detach
  | "INSTALL" => extensionIn [.standard]
  | "LOAD" => extensionIn [.standard, .postgres]
  | "PRAGMA" => pragma
  | "COMMENT" => comment
  | "LISTEN" => channelCommand k
  | "UNLISTEN" => channelCommand k
  | "NOTIFY" => channelCommand k
  | "LOCK" => lockTables
  | "UNLOCK" => unlockTables
  | _ => refuse

/-- A statement that is no query, from its first keyword on. -/
def command (r : Rules) : Parser Unit := do
  let k := keywordOf (← next)
  unless ← changeCommand? r k do
    unless ← sessionCommand? r k do upkeepCommand r k

/-- A statement. It is a level of its own. -/
def statement (r : Rules) : Parser Statement := deeper do
  if (← atKeywords ["SELECT", "WITH", "VALUES"]) || (← atSymbol "(") then
    return .query (← r.query)
  else
    command r
    return .other

end ColumnOrigin.Sql.Parser
