import ColumnOrigin.Sql.Parser.Options

/-! The columns of a table and the constraints on them. -/

namespace ColumnOrigin.Sql.Parser

/-! ## Constraints on rows -/

/-- When a constraint is checked, and whether it is at all. -/
def constraintTiming : Parser Unit := eachOnce [
  anyKeywords? [["NOT", "DEFERRABLE"], ["DEFERRABLE"]],
  after? ["INITIALLY"] (discard (expectAnyKeyword ["DEFERRED", "IMMEDIATE"])),
  anyKeywords? [["ENFORCED"], ["NOT", "ENFORCED"]]]

/-- What happens to the rows that refer to a row that changes or goes away. -/
def referentialActions : Parser Unit := do
  eachOnce [after? ["ON", "DELETE"] action, after? ["ON", "UPDATE"] action]
  constraintTiming
where
  action : Parser Unit := do
    unless ← anyKeywords? [["RESTRICT"], ["CASCADE"], ["SET", "NULL"], ["NO", "ACTION"],
        ["SET", "DEFAULT"]] do refuse

def checked (r : Rules) : Parser Unit := discard (parenthesised r.wholeExpr)

/-! ## Options of a column -/

/-- What follows GENERATED. Words that begin no such clause are lost. -/
def generated? (r : Rules) : Parser Bool := do
  if ← anyKeywords? [["ALWAYS", "AS", "IDENTITY"], ["BY", "DEFAULT", "AS", "IDENTITY"]] then
    identityOptions?
    return true
  else if ← keywords? ["ALWAYS", "AS"] then
    if ← atSymbol "(" then
      checked r
      if ← inGrammar [.postgres] then expectKeyword "STORED"
      else
        let _ ← anyKeyword? ["STORED", "VIRTUAL"]
      return true
    else return false
  else return false

/-- The expression of a computed column in parentheses. -/
def computedColumn (r : Rules) : Parser Unit := do
  checked r
  let _ ← anyKeyword? ["STORED", "VIRTUAL"]

/-- The start and the step of a column that counts, if they are there. -/
def identityRange? : Parser Unit := do
  if ← atSymbol "(" then
    parenthesised do
      signedNumber
      expectSymbol ","
      signedNumber

/-- Where the values of a column come from, if that is not the rows inserted. Only the standard
grammar can say so. -/
def columnSource? (r : Rules) : Parser Bool := do
  let ks := if ← inGrammar [.standard] then ["MATERIALIZED", "ALIAS", "EPHEMERAL"] else []
  match ← anyKeyword? ks with
  | none => return false
  | some k =>
    let ends := (← atSymbol ",") || (← atSymbol ")")
    unless k == "EPHEMERAL" && ends do
      let _ ← r.wholeExpr
    return true

/-- The options of a column that every grammar has. -/
def commonColumnOption? (r : Rules) : Parser Bool := do
  if ← keywords? ["CHARACTER", "SET"] then
    let _ ← dottedName
    return true
  else if ← anyKeywords? [["NOT", "NULL"], ["NULL"]] then return true
  else if ← after? ["COMMENT"] stringLiteral then return true
  else if ← after? ["DEFAULT"] (discard r.wholeExpr) then return true
  else return false

/-- The options of a column that constrain its values. -/
def columnConstraint? (r : Rules) : Parser Bool := do
  if ← anyKeywords? [["PRIMARY", "KEY"], ["UNIQUE"]] then
    constraintTiming
    return true
  else if ← keyword? "REFERENCES" then
    let _ ← dottedName
    let _ ← nameList?
    referentialActions
    return true
  else after? ["CHECK"] (checked r)

/-- Reads a keyword, and says whether it is there and one of the grammars `gs` has it. A grammar
without it loses the word. -/
def keywordFor? (gs : List Grammar) (ks : List String) : Parser Bool := do
  if ← keywords? ks then inGrammar gs
  else return false

/-- The options of a column that only the standard grammar has, and that leave other words alone. -/
def standardColumnOption? (r : Rules) : Parser Bool := do
  unless ← inGrammar [.standard] do return false
  if ← options? r ["OPTIONS"] then return true
  else
    after? ["ON", "CONFLICT"] do
      let _ ← expectAnyKeyword ["ROLLBACK", "ABORT", "FAIL", "IGNORE", "REPLACE"]

/-- The options of a column that not every grammar has. Their words are lost where the grammar does
not have them. -/
def specialColumnOption? (r : Rules) : Parser Bool := do
  if ← keywordFor? [.standard, .mySql] ["AUTO_INCREMENT"] then return true
  else if ← keywordFor? [.standard] ["AUTOINCREMENT"] then return true
  else if ← keywordFor? [.standard] ["ASC"] then return true
  else if ← keywordFor? [.standard] ["DESC"] then return true
  else if ← keywordFor? [.standard, .mySql] ["ON", "UPDATE"] then
    let _ ← r.wholeExpr
    return true
  else if ← keyword? "GENERATED" then generated? r
  else if ← keywordFor? [.standard, .mySql] ["AS"] then
    computedColumn r
    return true
  else if ← keywordFor? [.standard] ["IDENTITY"] then
    identityRange?
    return true
  else standardColumnOption? r

/-- One option of a column, if one is next. -/
def columnOption? (r : Rules) : Parser Bool := do
  if ← commonColumnOption? r then return true
  else if ← columnSource? r then return true
  else if ← columnConstraint? r then return true
  else specialColumnOption? r

/-- The options of a column, each perhaps with a name. -/
def columnOptions (r : Rules) : Parser Unit := eachTime do
  if ← keyword? "CONSTRAINT" then
    let _ ← name
    unless ← columnOption? r do refuse
    return true
  else if ← columnOption? r then return true
  else if ← inGrammar [.standard, .mySql] then after? ["COLLATE"] (discard dottedName)
  else return false

/-- A column with its type and options. -/
def columnDefinition (r : Rules) : Parser Unit := do
  let _ ← name
  let _ ← r.wholeType
  let _ ← after? ["COLLATE"] (discard dottedName)
  columnOptions r

/-! ## Constraints of a table -/

/-- The kind of an index after USING, if it is there. -/
def indexType? : Parser Bool :=
  after? ["USING"] (discard (expectAnyKeyword ["BTREE", "HASH"]))

/-- The name, kind and columns of an index, and what may follow those of a key. -/
def keyColumns : Parser Unit := do
  let _ ← attempt name
  let _ ← indexType?
  let _ ← nameList
  eachTime do
    if ← indexType? then return true
    else after? ["COMMENT"] (discard textLiteral)
  constraintTiming

/-- UNIQUE after its keyword. -/
def uniqueKey : Parser Unit := do
  if (← anyKeyword? ["KEY", "INDEX"]).isSome then
    if ← inGrammar [.postgres] then refuse
  if ← keyword? "NULLS" then
    let _ ← keyword? "NOT"
    expectKeyword "DISTINCT"
  keyColumns

/-- FOREIGN KEY after its first keyword. -/
def foreignKey : Parser Unit := do
  expectKeyword "KEY"
  let _ ← nameList
  expectKeyword "REFERENCES"
  let _ ← dottedName
  let _ ← nameList
  referentialActions

/-- An index among the columns of a table, after its keyword. -/
def plainIndex : Parser Unit := do
  unless ← atKeyword "USING" do
    let _ ← attempt name
  let _ ← indexType?
  let _ ← nameList

/-- An index for texts or places among the columns of a table, after its keyword. -/
def searchIndex : Parser Unit := do
  let _ ← anyKeyword? ["KEY", "INDEX"]
  let _ ← attempt name
  let _ ← nameList

/-- A constraint of a table, if one is next. -/
def tableConstraint? (r : Rules) : Parser Bool := do
  let named ← after? ["CONSTRAINT"] (discard name)
  let hasIndexes ← inGrammar [.standard, .mySql]
  if ← after? ["UNIQUE"] uniqueKey then return true
  else if ← after? ["PRIMARY"] (do expectKeyword "KEY"; keyColumns) then return true
  else if ← after? ["FOREIGN"] foreignKey then return true
  else if ← after? ["CHECK"] (checked r) then return true
  else if named then refuse
  else if hasIndexes then
    match ← anyKeyword? ["INDEX", "KEY", "FULLTEXT", "SPATIAL"] with
    | none => return false
    | some k =>
      if k == "INDEX" || k == "KEY" then plainIndex else searchIndex
      return true
  else return false

/-- A constraint or a column in the definition of a table. -/
def tableElement (r : Rules) : Parser Unit := do
  unless ← tableConstraint? r do
    match ← peek with
    | some (.word _) => columnDefinition r
    | _ => refuse

/-- The columns and constraints of a table in parentheses, if they are there. -/
def tableElements? (r : Rules) : Parser Unit := do
  if ← atSymbol "(" then
    let _ ← parenthesised (commaSeparatedUntil ")" (tableElement r))

end ColumnOrigin.Sql.Parser
