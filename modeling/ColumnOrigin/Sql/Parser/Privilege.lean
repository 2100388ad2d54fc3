import ColumnOrigin.Sql.Parser.Basic

/-! Statements about who may do what: GRANT and REVOKE. -/

namespace ColumnOrigin.Sql.Parser

/-- One right, perhaps on some columns only. -/
def privilege : Parser Unit := do
  let k ← expectAnyKeyword ["CONNECT", "CREATE", "DELETE", "EXECUTE", "INSERT", "REFERENCES",
    "SELECT", "TEMPORARY", "TRIGGER", "TRUNCATE", "UPDATE", "USAGE"]
  if ["INSERT", "REFERENCES", "SELECT", "UPDATE"].contains k then
    let _ ← nameList?

/-- Rights and what they are on. -/
def privilegesOn : Parser Unit := do
  if ← keyword? "ALL" then
    let _ ← keyword? "PRIVILEGES"
  else
    let _ ← commaSeparated privilege
  expectKeyword "ON"
  let _ ← anyKeywords? [["ALL", "TABLES", "IN", "SCHEMA"], ["ALL", "SEQUENCES", "IN", "SCHEMA"],
    ["SEQUENCE"], ["SCHEMA"], ["TABLE"]]
  let _ ← commaSeparated dottedName

/-- The one who gives rights or takes them, if it is said. -/
def grantor? : Parser Unit := do
  if ← keywords? ["GRANTED", "BY"] then
    let _ ← name

/-- GRANT after its keyword. -/
def grant : Parser Unit := do
  privilegesOn
  expectKeyword "TO"
  let _ ← commaSeparated name
  let _ ← keywords? ["WITH", "GRANT", "OPTION"]
  grantor?

/-- REVOKE after its keyword. -/
def revoke : Parser Unit := do
  privilegesOn
  expectKeyword "FROM"
  let _ ← commaSeparated name
  grantor?
  let cascade ← keyword? "CASCADE"
  let restrict ← keyword? "RESTRICT"
  if cascade && restrict then refuse

end ColumnOrigin.Sql.Parser
