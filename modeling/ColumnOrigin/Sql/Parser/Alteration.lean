import ColumnOrigin.Sql.Parser.Definition

/-! Changes to what is defined, and its removal: ALTER and DROP. -/

namespace ColumnOrigin.Sql.Parser

/-! ## Columns -/

/-- Where a new column goes. -/
def columnPosition? : Parser Unit := do
  if ← inGrammar [.standard, .mySql] then
    unless ← keyword? "FIRST" do
      let _ ← after? ["AFTER"] (discard name)

/-- The type and options of a column that is defined anew, without names for the options. -/
def redefinedColumn (r : Rules) : Parser Unit := do
  let _ ← r.wholeType
  eachTime (columnOption? r)
  columnPosition?

/-- A change to one property of a column. -/
def columnChange (r : Rules) : Parser Unit := do
  let hasShortForm ← inGrammar [.postgres]
  let typeWords := [["SET", "DATA", "TYPE"]] ++ if hasShortForm then [["TYPE"]] else []
  if ← anyKeywords? [["SET", "NOT", "NULL"], ["DROP", "NOT", "NULL"], ["DROP", "DEFAULT"]] then
    pure ()
  else if ← keywords? ["SET", "DEFAULT"] then
    let _ ← r.wholeExpr
  else if ← anyKeywords? typeWords then
    let _ ← r.wholeType
    if hasShortForm then
      let _ ← exprAfter? r "USING"
  else
    expectKeywords ["ADD", "GENERATED"]
    let _ ← anyKeywords? [["ALWAYS"], ["BY", "DEFAULT"]]
    expectKeywords ["AS", "IDENTITY"]
    identityOptions?

/-! ## Projections and partitions -/

/-- A query kept in its own order beside a table, after ADD PROJECTION. -/
def addProjection (r : Rules) : Parser Unit := do
  ifNotExists?
  let _ ← name
  parenthesised do
    expectKeyword "SELECT"
    let _ ← commaSeparated (selectItem r)
    groupBy? r
    queryOrder? r

/-- A projection by its name, perhaps in one partition only. -/
def projectionReference : Parser Unit := do
  ifExists?
  let _ ← name
  let _ ← after? ["IN", "PARTITION"] (discard name)

/-- A part or a partition by its value. -/
def partOrPartition (r : Rules) : Parser Unit := do
  let _ ← expectAnyKeyword ["PART", "PARTITION"]
  let _ ← r.wholeExpr

def partitionValues (r : Rules) : Parser Unit := discard (parenthesised r.exprs)

/-! ## Changes of a table -/

/-- What follows ADD. -/
def addition (r : Rules) : Parser Unit := do
  unless ← tableConstraint? r do
    if ← keywordIn? [.standard] "PROJECTION" then addProjection r
    else
      ifNotExists?
      if ← partition? r then eachTime (partition? r)
      else
        let _ ← keyword? "COLUMN"
        if ← inGrammar [.standard, .postgres] then ifNotExists?
        columnDefinition r
        columnPosition?

/-- What follows RENAME. -/
def rename : Parser Unit := do
  if ← keywordIn? [.postgres] "CONSTRAINT" then pair
  else if ← keyword? "TO" then
    let _ ← dottedName
  else
    let _ ← keyword? "COLUMN"
    pair
where
  pair : Parser Unit := do
    let _ ← name
    expectKeyword "TO"
    let _ ← name

/-- What follows DROP. -/
def removal (r : Rules) : Parser Unit := do
  if ← anyKeywords? [["IF", "EXISTS", "PARTITION"], ["PARTITION"]] then partitionValues r
  else if ← keyword? "CONSTRAINT" then constraintOrColumn
  else if ← keywordFor? [.standard, .mySql] ["PRIMARY", "KEY"] then pure ()
  else if ← keywordFor? [.standard] ["PROJECTION"] then
    ifExists?
    let _ ← name
  else unless ← keywords? ["CLUSTERING", "KEY"] do
    let _ ← keyword? "COLUMN"
    constraintOrColumn
where
  constraintOrColumn : Parser Unit := do
    ifExists?
    let _ ← name
    let _ ← keyword? "CASCADE"

/-- What follows ENABLE and DISABLE, where a switch may stand before a rule or a trigger. -/
def toggled (switches : List String) : Parser Unit := do
  unless ← keywords? ["ROW", "LEVEL", "SECURITY"] do
    let _ ← anyKeyword? switches
    let _ ← expectAnyKeyword ["RULE", "TRIGGER"]
    let _ ← name

/-- What follows ATTACH, DETACH, FREEZE and UNFREEZE, the keyword of which is `k`. -/
def partitionMove (r : Rules) (k : String) : Parser Unit := do
  partOrPartition r
  if k == "FREEZE" || k == "UNFREEZE" then
    if ← keyword? "WITH" then
      expectKeyword "NAME"
      let _ ← name

/-- The changes of a table that begin with one keyword of their own. -/
def plainAlteration? (r : Rules) : Parser Bool := do
  match ← anyKeyword? ["ADD", "RENAME", "DISABLE", "ENABLE"] with
  | some "ADD" => addition r; return true
  | some "RENAME" => rename; return true
  | some "DISABLE" => toggled []; return true
  | some _ => toggled ["ALWAYS", "REPLICA"]; return true
  | none =>
    if ← keywordFor? [.standard] ["CLEAR", "PROJECTION"] then projectionReference; return true
    else if ← keywordFor? [.standard] ["MATERIALIZE", "PROJECTION"] then
      projectionReference
      return true
    else after? ["DROP"] (removal r)

/-- The changes that replace something: partitions, columns or the whole table. -/
def replacingAlteration? (r : Rules) : Parser Bool := do
  match ← anyKeyword? ["PARTITION", "CHANGE", "MODIFY", "ALTER", "SWAP"] with
  | some "PARTITION" =>
    partitionValues r
    expectKeywords ["RENAME", "TO", "PARTITION"]
    partitionValues r
    return true
  | some "CHANGE" =>
    let _ ← keyword? "COLUMN"
    let _ ← name
    let _ ← name
    redefinedColumn r
    return true
  | some "MODIFY" =>
    let _ ← keyword? "COLUMN"
    let _ ← name
    redefinedColumn r
    return true
  | some "ALTER" =>
    let _ ← keyword? "COLUMN"
    let _ ← name
    columnChange r
    return true
  | some _ =>
    expectKeyword "WITH"
    let _ ← dottedName
    return true
  | none => return false

/-- The changes of a table's owner and of how it is kept. -/
def storageAlteration (r : Rules) : Parser Unit := do
  let standard ← inGrammar [.standard]
  let hasOwner ← inGrammar [.standard, .postgres]
  let moves := if standard then ["ATTACH", "DETACH", "FREEZE", "UNFREEZE"] else []
  match ← anyKeyword? moves with
  | some k => partitionMove r k
  | none =>
    let owned ← if hasOwner then after? ["OWNER", "TO"] (discard name) else pure false
    unless owned do
      unless ← after? ["CLUSTER", "BY"] (partitionValues r) do
        unless ← anyKeywords? [["SUSPEND", "RECLUSTER"], ["RESUME", "RECLUSTER"]] do
          unless ← options? r ["SET", "TBLPROPERTIES"] do refuse

/-- One change of ALTER TABLE. -/
def alteration (r : Rules) : Parser Unit := do
  unless ← plainAlteration? r do
    unless ← replacingAlteration? r do storageAlteration r

/-- ALTER TABLE after those words. -/
def alterTable (r : Rules) : Parser Unit := do
  ifExists?
  let _ ← keyword? "ONLY"
  let _ ← dottedName
  onCluster?
  let _ ← commaSeparated (alteration r)
  if ← anyKeywords? [["LOCATION"], ["SET", "LOCATION"]] then
    let _ ← name

/-! ## ALTER for everything else -/

/-- ALTER VIEW after those words. -/
def alterView (r : Rules) : Parser Unit := do
  let _ ← dottedName
  let _ ← nameList?
  let _ ← options? r ["WITH"]
  expectKeyword "AS"
  let _ ← r.query

/-- ALTER INDEX after those words. -/
def alterIndex : Parser Unit := do
  let _ ← dottedName
  expectKeywords ["RENAME", "TO"]
  let _ ← dottedName

/-- ALTER POLICY after those words. -/
def alterPolicy (r : Rules) : Parser Unit := do
  let _ ← name
  expectKeyword "ON"
  let _ ← dottedName
  if ← keyword? "RENAME" then
    expectKeyword "TO"
    let _ ← name
  else policyClauses r

/-- A setting of a role, after SET. -/
def roleSetting (r : Rules) : Parser Unit := do
  let _ ← dottedName
  unless ← keywords? ["FROM", "CURRENT"] do
    unless ← symbol? "=" do expectKeyword "TO"
    unless ← keyword? "DEFAULT" do
      let _ ← orRefuse r.wholeExpr

/-- One right or property of a role, as ALTER takes it. -/
def rolePropertyChange : Parser Unit := do
  let right ← anyKeyword? (roleRights.flatMap fun (may, mayNot) => [may, mayNot])
  if right.isNone then
    match ← expectAnyKeyword ["PASSWORD", "CONNECTION", "VALID"] with
    | "PASSWORD" => rolePassword
    | "CONNECTION" => expectKeyword "LIMIT"; numberValue
    | _ => expectKeyword "UNTIL"; value

/-- ALTER ROLE after those words. -/
def alterRole (r : Rules) : Parser Unit := do
  unless ← inGrammar [.postgres] do refuse
  let _ ← name
  if ← keywords? ["IN", "DATABASE"] then looseName
  match ← anyKeyword? ["RENAME", "SET", "RESET"] with
  | some "RENAME" =>
    expectKeyword "TO"
    let _ ← name
  | some "SET" => roleSetting r
  | some _ =>
    unless ← keyword? "ALL" do
      let _ ← dottedName
  | none =>
    let _ ← keyword? "WITH"
    rolePropertyChange
    eachTime do return (← attempt rolePropertyChange).isSome

/-- ALTER after its keyword. -/
def alter (r : Rules) : Parser Unit := do
  match ← expectAnyKeyword ["VIEW", "TABLE", "INDEX", "ROLE", "POLICY"] with
  | "VIEW" => alterView r
  | "TABLE" => alterTable r
  | "INDEX" => alterIndex
  | "ROLE" => alterRole r
  | _ => alterPolicy r

/-! ## DROP -/

/-- What becomes of the objects that depend on a removed one. -/
def dropBehaviour? : Parser Unit := discard (anyKeyword? ["CASCADE", "RESTRICT"])

/-- DROP of the objects with names of their own, after the word for their kind. A role takes
nothing after its name. -/
def dropNamed (kind : String) : Parser Unit := do
  ifExists?
  let _ ← commaSeparated dottedName
  let cascade ← keyword? "CASCADE"
  let restrict ← keyword? "RESTRICT"
  let purge ← keyword? "PURGE"
  if cascade && restrict then refuse
  if kind == "ROLE" && (cascade || restrict || purge) then refuse

/-- DROP of functions and procedures after the word for them. -/
def dropRoutine (r : Rules) : Parser Unit := do
  ifExists?
  let _ ← commaSeparated (functionReference r)
  dropBehaviour?

/-- DROP of what belongs to a table, after the word for it; `p` is its name. -/
def dropFromTable (p : Parser Unit) : Parser Unit := do
  ifExists?
  p
  expectKeyword "ON"
  let _ ← dottedName
  dropBehaviour?

/-- DROP after its keyword. -/
def drop (r : Rules) : Parser Unit := do
  let _ ← keywordIn? [.standard, .mySql] "TEMPORARY"
  match keywordOf (← next) with
  | "FUNCTION" => dropRoutine r
  | "PROCEDURE" => dropRoutine r
  | "POLICY" => dropFromTable (discard name)
  | "TRIGGER" =>
    if ← inGrammar [.mySql] then refuse
    dropFromTable (discard dottedName)
  | "SECRET" =>
    ifExists?
    let _ ← name
    let _ ← after? ["FROM"] (discard loosePart)
  | kind =>
    unless ["TABLE", "VIEW", "INDEX", "ROLE", "SCHEMA", "DATABASE", "SEQUENCE", "STAGE",
        "TYPE"].contains kind do refuse
    dropNamed kind

end ColumnOrigin.Sql.Parser
