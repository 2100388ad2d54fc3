import ColumnOrigin.Sql.Parser.Options
import ColumnOrigin.Sql.Parser.Query

/-! Statements about the upkeep of a database: its caches, files, connections and extensions. -/

namespace ColumnOrigin.Sql.Parser

/-! ## Tables -/

/-- A clause of ANALYZE, if one is next. -/
def analyzeClause? (r : Rules) : Parser Bool := do
  match ← anyKeyword? ["PARTITION", "FOR", "CACHE", "NOSCAN", "COMPUTE"] with
  | none => return false
  | some k =>
    match k with
    | "PARTITION" => let _ ← parenthesised r.exprs
    | "FOR" =>
      expectKeyword "COLUMNS"
      let _ ← attempt (commaSeparated name)
    | "CACHE" => expectKeyword "METADATA"
    | "COMPUTE" => expectKeyword "STATISTICS"
    | _ => pure ()
    return true

/-- ANALYZE after its keyword. -/
def analyze (r : Rules) : Parser Unit := do
  expectKeyword "TABLE"
  let _ ← dottedName
  eachTime (analyzeClause? r)

/-- MSCK after its keyword. -/
def repair : Parser Unit := do
  let _ ← keyword? "REPAIR"
  expectKeyword "TABLE"
  let _ ← dottedName
  let _ ← anyKeywords? [["ADD", "PARTITIONS"], ["DROP", "PARTITIONS"], ["SYNC", "PARTITIONS"],
    ["PARTITIONS"]]

/-- OPTIMIZE after its keyword. -/
def optimize (r : Rules) : Parser Unit := do
  unless ← inGrammar [.standard] do refuse
  expectKeyword "TABLE"
  let _ ← dottedName
  onCluster?
  if ← keyword? "PARTITION" then
    unless ← after? ["ID"] (discard name) do
      let _ ← r.wholeExpr
  let _ ← keyword? "FINAL"
  if ← keyword? "DEDUPLICATE" then
    let _ ← exprAfter? r "BY"

/-- The query that a cached table is filled from, with its options. -/
def cachedQuery (r : Rules) : Parser Unit := do
  let _ ← options? r ["OPTIONS"]
  match ← peek with
  | none => pure ()
  | some (.word _) =>
    let _ ← keyword? "AS"
    let _ ← r.query
  | some _ => refuse

/-- CACHE after its keyword. Only the end of the text may stand in the place of the query. -/
def cacheTable (r : Rules) : Parser Unit := do
  unless ← keyword? "TABLE" do
    let _ ← dottedName
    expectKeyword "TABLE"
  let _ ← dottedName
  cachedQuery r

/-- UNCACHE after its keyword. -/
def uncacheTable : Parser Unit := do
  expectKeyword "TABLE"
  ifExists?
  let _ ← dottedName

/-! ## The server -/

/-- KILL after its keyword. -/
def kill : Parser Unit := do
  let kind ← anyKeyword? ["CONNECTION", "QUERY", "MUTATION"]
  let _ ← naturalLiteral
  if kind == some "MUTATION" then
    unless ← inGrammar [.standard] do refuse

/-- What FLUSH TABLES is about. The first token that is no word ends it and is lost. -/
def flushTables : Parser Unit := do
  let _ ← iterate (fun (_ : Unit) => do
    let start ← get
    match ← next with
    | some (.word w) =>
      if w.keyword == "WITH" then
        let _ ← keywords? ["READ", "LOCK"]
      else if w.keyword == "FOR" then
        let _ ← keyword? "EXPORT"
      else unless Keyword.isKeyword w.keyword do
        set start
        let _ ← commaSeparated dottedName
      return some ()
    | _ => return none) ()

/-- FLUSH after its keyword. -/
def flush : Parser Unit := do
  if ← inGrammar [.postgres] then refuse
  let _ ← anyKeyword? ["NO_WRITE_TO_BINLOG", "LOCAL"]
  if ← keywords? ["RELAY", "LOGS"] then
    let _ ← after? ["FOR", "CHANNEL"] (discard dottedName)
  else if ← keyword? "TABLES" then flushTables
  else unless ← anyKeywords? [["BINARY", "LOGS"], ["ENGINE", "LOGS"], ["ERROR", "LOGS"],
      ["GENERAL", "LOGS"], ["SLOW", "LOGS"], ["LOGS"], ["HOSTS"], ["PRIVILEGES"],
      ["OPTIMIZER_COSTS"], ["STATUS"], ["USER_RESOURCES"]] do refuse

/-- DISCARD after its keyword. -/
def discardCommand : Parser Unit :=
  discard (expectAnyKeyword ["ALL", "PLANS", "SEQUENCES", "TEMP", "TEMPORARY"])

/-- ATTACH after its keyword. -/
def attach (r : Rules) : Parser Unit := do
  let _ ← keyword? "DATABASE"
  let _ ← r.wholeExpr
  expectKeyword "AS"
  let _ ← name

/-- DETACH after its keyword. -/
def detach : Parser Unit := do
  unless ← inGrammar [.standard] do refuse
  let _ ← keyword? "DATABASE"
  ifExists?
  let _ ← name

/-- An extension by its name, where one of the grammars `gs` has them. -/
def extensionIn (gs : List Grammar) : Parser Unit := do
  unless ← inGrammar gs do refuse
  let _ ← name

/-- PRAGMA after its keyword. -/
def pragma : Parser Unit := do
  let _ ← dottedName
  if ← symbol? "=" then pragmaValue
  else if ← atSymbol "(" then parenthesised pragmaValue
where
  pragmaValue : Parser Unit := do
    match ← peek with
    | some (.word w) => if w.quote == some '"' then skip else refuse
    | some (.string _) => skip
    | some (.wideString _) => skip
    | _ => numberValue

/-- COMMENT after its keyword. -/
def comment : Parser Unit := do
  if ← inGrammar [.mySql] then refuse
  ifExists?
  expectKeyword "ON"
  let _ ← expectAnyKeyword ["COLUMN", "TABLE", "EXTENSION", "SCHEMA", "DATABASE", "USER", "ROLE"]
  let _ ← dottedName
  expectKeyword "IS"
  unless ← keyword? "NULL" do
    let _ ← textLiteral

/-! ## Channels and locks -/

/-- LISTEN, UNLISTEN or NOTIFY after its keyword `k`. -/
def channelCommand (k : String) : Parser Unit := do
  unless ← inGrammar [.postgres] do refuse
  let isWildcard ← if k == "UNLISTEN" then symbol? "*" else pure false
  unless isWildcard do
    let _ ← name
  if k == "NOTIFY" then
    if ← symbol? "," then
      let _ ← textLiteral

/-- LOCK TABLES of MySQL after its first keyword. -/
def lockTables : Parser Unit := do
  unless ← inGrammar [.mySql] do refuse
  expectKeyword "TABLES"
  let _ ← commaSeparated do
    let _ ← name
    let _ ← aliasName? ["READ", "WRITE", "LOW_PRIORITY"]
    if ← keyword? "READ" then
      let _ ← keyword? "LOCAL"
    else unless ← anyKeywords? [["WRITE"], ["LOW_PRIORITY", "WRITE"]] do refuse

/-- UNLOCK TABLES of MySQL after its first keyword. -/
def unlockTables : Parser Unit := do
  unless ← inGrammar [.mySql] do refuse
  expectKeyword "TABLES"

end ColumnOrigin.Sql.Parser
