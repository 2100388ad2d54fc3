import ColumnOrigin.Sql.Parser.Routine
import ColumnOrigin.Sql.Parser.TableDefinition

/-! Definitions of everything else: indexes, schemas, roles, types and so on; and CREATE as a
whole. -/

namespace ColumnOrigin.Sql.Parser

/-! ## Indexes and virtual tables -/

/-- CREATE INDEX after those words. -/
def createIndex (r : Rules) : Parser Unit := do
  let _ ← keyword? "CONCURRENTLY"
  let mustHaveName ← keywords? ["IF", "NOT", "EXISTS"]
  let isNamed := mustHaveName || !(← atKeyword "ON")
  if isNamed then
    let _ ← dottedName
  expectKeyword "ON"
  let _ ← dottedName
  let _ ← after? ["USING"] (discard name)
  parenthesised (orderByItems r)
  let _ ← after? ["INCLUDE"] (discard nameList)
  if ← keyword? "NULLS" then
    let _ ← keyword? "NOT"
    expectKeyword "DISTINCT"
  if ← inGrammar [.standard, .postgres] then
    let _ ← after? ["WITH"] (discard (parenthesised r.exprs))
  let _ ← exprAfter? r "WHERE"

/-- CREATE VIRTUAL TABLE after the second word. -/
def createVirtualTable : Parser Unit := do
  expectKeyword "TABLE"
  ifNotExists?
  let _ ← dottedName
  expectKeyword "USING"
  let _ ← name
  let _ ← nameList?

/-! ## Schemas, databases and extensions -/

/-- CREATE SCHEMA after those words. -/
def createSchema : Parser Unit := do
  ifNotExists?
  unless ← authorization? do
    let _ ← dottedName
    let _ ← authorization?
where
  authorization? : Parser Bool := after? ["AUTHORIZATION"] (discard name)

/-- CREATE DATABASE after those words. -/
def createDatabase : Parser Unit := do
  ifNotExists?
  let _ ← dottedName
  eachTime do
    if (← anyKeyword? ["LOCATION", "MANAGEDLOCATION"]).isSome then
      let _ ← textLiteral
      return true
    else return false

/-- CREATE EXTENSION after those words. -/
def createExtension : Parser Unit := do
  ifNotExists?
  let _ ← name
  if ← keyword? "WITH" then
    let _ ← after? ["SCHEMA"] (discard name)
    let _ ← after? ["VERSION"] (discard name)
    let _ ← keyword? "CASCADE"

/-- CREATE SECRET after those words. Its name and its storage may each be missing. -/
def createSecret : Parser Unit := do
  ifNotExists?
  unless ← atSymbol "(" do
    let hasStorage ← keyword? "IN"
    let isPart ← loosePart
    unless hasStorage && isPart do
      let _ ← after? ["IN"] (discard loosePart)
  parenthesised do
    expectKeyword "TYPE"
    let _ ← name
    if ← symbol? "," then
      let _ ← commaSeparated do
        let _ ← name
        name

/-! ## Roles and policies -/

/-- What a role may do and may not, each under one of two words. -/
def roleRights : List (String × String) := [
  ("LOGIN", "NOLOGIN"), ("INHERIT", "NOINHERIT"), ("BYPASSRLS", "NOBYPASSRLS"),
  ("CREATEDB", "NOCREATEDB"), ("CREATEROLE", "NOCREATEROLE"), ("SUPERUSER", "NOSUPERUSER"),
  ("REPLICATION", "NOREPLICATION")]

def rolePassword : Parser Unit := do
  unless ← keyword? "NULL" do value

/-- The properties of a role that are no rights. -/
def roleProperties : List (Parser Bool) := [
  after? ["PASSWORD"] rolePassword,
  after? ["CONNECTION"] (do expectKeyword "LIMIT"; numberValue),
  after? ["VALID"] (do expectKeyword "UNTIL"; value)]

/-- The other roles that a new one belongs to, or that belong to it. -/
def roleMembers : List (Parser Bool) :=
  [["IN", "ROLE"], ["IN", "GROUP"], ["ROLE"], ["USER"], ["ADMIN"]].map fun ks =>
    after? ks (discard (commaSeparated name))

/-- CREATE ROLE after those words. Only PostgreSQL has properties of roles. -/
def createRole : Parser Unit := do
  ifNotExists?
  let _ ← commaSeparated dottedName
  let _ ← keyword? "WITH"
  if ← inGrammar [.postgres] then
    let rights := roleRights.map fun (may, mayNot) => anyKeywords? [[may], [mayNot]]
    eachOnce (rights ++ roleProperties ++ roleMembers)

/-- Whom a policy is for, and what it asks of the rows. -/
def policyClauses (r : Rules) : Parser Unit := do
  let _ ← after? ["TO"] (discard (commaSeparated name))
  let _ ← after? ["USING"] (checked r)
  let _ ← after? ["WITH", "CHECK"] (checked r)

/-- CREATE POLICY after those words. -/
def createPolicy (r : Rules) : Parser Unit := do
  let _ ← name
  expectKeyword "ON"
  let _ ← dottedName
  let _ ← after? ["AS"] (discard (expectAnyKeyword ["PERMISSIVE", "RESTRICTIVE"]))
  let _ ← after? ["FOR"]
    (discard (expectAnyKeyword ["ALL", "SELECT", "INSERT", "UPDATE", "DELETE"]))
  policyClauses r

/-! ## Sequences and types -/

/-- CREATE SEQUENCE after those words. -/
def createSequence (r : Rules) : Parser Unit := do
  ifNotExists?
  let _ ← dottedName
  let _ ← after? ["AS"] (discard r.wholeType)
  sequenceOptions
  if ← keywords? ["OWNED", "BY"] then
    unless ← keyword? "NONE" do
      let _ ← dottedName

/-- The fields of a composite type in parentheses, if they are there. The last may have a comma
after it. -/
def typeFields? (r : Rules) : Parser Unit := do
  if ← symbol? "(" then
    unless ← symbol? ")" do
      let _ ← iterate (fun (isOpen : Bool) => do
        if !isOpen then return none
        let _ ← name
        let _ ← r.wholeType
        let _ ← after? ["COLLATE"] (discard dottedName)
        let comma ← symbol? ","
        if ← symbol? ")" then return some false
        else if comma then return some true
        else refuse) true

/-- CREATE TYPE after those words. -/
def createType (r : Rules) : Parser Unit := do
  let _ ← dottedName
  expectKeyword "AS"
  typeFields? r

/-- A type of PostgreSQL that lists its values, if that follows CREATE at once. -/
def enumeration? : Parser Bool := do
  let begins ← attempt do
    expectKeyword "TYPE"
    let _ ← dottedName
    expectKeywords ["AS", "ENUM"]
  if begins.isSome then
    let _ ← parenthesised (commaSeparatedUntil ")" name)
    return true
  else return false

/-! ## CREATE as a whole -/

/-- A definition that may replace one of the same name, if one is next. -/
def replaceable? (r : Rules) : Parser Bool := do
  if ← atKeywords ["MATERIALIZED", "VIEW"] then
    createView r
    return true
  else if ← after? ["TABLE"] (createTable r) then return true
  else if ← after? ["POLICY"] (createPolicy r) then return true
  else if ← after? ["EXTERNAL"] (createExternalTable r) then return true
  else if ← after? ["FUNCTION"] (createFunction r) then return true
  else if ← after? ["TRIGGER"] (createTrigger r) then return true
  else if ← after? ["CONSTRAINT", "TRIGGER"] (createTrigger r) then return true
  else if ← after? ["MACRO"] (createMacro r) then return true
  else after? ["SECRET"] createSecret

/-- A definition that replaces none. -/
def createAnew (r : Rules) : Parser Unit := do
  if ← keywords? ["UNIQUE", "INDEX"] then createIndex r
  else match keywordOf (← next) with
    | "INDEX" => createIndex r
    | "EXTENSION" => createExtension
    | "VIRTUAL" => createVirtualTable
    | "SCHEMA" => createSchema
    | "DATABASE" => createDatabase
    | "ROLE" => createRole
    | "SEQUENCE" => createSequence r
    | "TYPE" => createType r
    | "PROCEDURE" => createProcedure r
    | _ => refuse

/-- CREATE after its keyword, and perhaps with words before the kind of the object. -/
def createObject (r : Rules) : Parser Unit := do
  let replaces ← keywords? ["OR", "REPLACE"]
  let _ ← keywords? ["OR", "ALTER"]
  for k in ["LOCAL", "GLOBAL", "TRANSIENT"] do
    let _ ← keyword? k
  let _ ← anyKeyword? ["TEMP", "TEMPORARY"]
  unless ← replaceable? r do
    if replaces then refuse
    createAnew r

/-- CREATE after its keyword. -/
def create (r : Rules) : Parser Unit := do
  if ← inGrammar [.postgres] then
    unless ← enumeration? do createObject r
  else createObject r

end ColumnOrigin.Sql.Parser
