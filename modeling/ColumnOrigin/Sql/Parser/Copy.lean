import ColumnOrigin.Sql.Parser.Options

/-! Statements that move rows between tables and files: COPY and UNLOAD. -/

namespace ColumnOrigin.Sql.Parser

/-! ## Options -/

/-- A string of one byte. -/
def byteLiteral : Parser Unit := do
  unless (← textLiteral).utf8ByteSize == 1 do refuse

/-- An option in the parentheses of a COPY. -/
def copyOption : Parser Unit := do
  let k ← expectAnyKeyword ["FORMAT", "FREEZE", "DELIMITER", "NULL", "HEADER", "QUOTE", "ESCAPE",
    "FORCE_QUOTE", "FORCE_NOT_NULL", "FORCE_NULL", "ENCODING"]
  if k == "FORMAT" then
    let _ ← name
  else if ["FREEZE", "HEADER"].contains k then
    let _ ← anyKeyword? ["TRUE", "FALSE"]
  else if ["DELIMITER", "QUOTE", "ESCAPE"].contains k then byteLiteral
  else if ["NULL", "ENCODING"].contains k then
    let _ ← textLiteral
  else
    let _ ← nameList

/-- An option of the older form that CSV may have. -/
def olderCsvOption : Parser Unit := do
  match ← expectAnyKeyword ["HEADER", "QUOTE", "ESCAPE", "FORCE"] with
  | "HEADER" => pure ()
  | "FORCE" =>
    unless ← anyKeywords? [["NOT", "NULL"], ["QUOTE"]] do refuse
    let _ ← commaSeparated name
  | _ =>
    let _ ← keyword? "AS"
    byteLiteral

/-- An option of the older form, without parentheses. -/
def olderCopyOption : Parser Unit := do
  match ← expectAnyKeyword ["BINARY", "DELIMITER", "NULL", "CSV"] with
  | "BINARY" => pure ()
  | "DELIMITER" =>
    let _ ← keyword? "AS"
    byteLiteral
  | "NULL" =>
    let _ ← keyword? "AS"
    let _ ← textLiteral
  | _ => eachTime do return (← attempt olderCsvOption).isSome

/-! ## COPY -/

/-- What a COPY reads or writes: a table with some of its columns, or a query. Whether it is a
query. -/
def copySource (r : Rules) : Parser Bool := do
  if ← atSymbol "(" then
    let _ ← parenthesised r.query
    return true
  else
    let _ ← dottedName
    let _ ← nameList?
    return false

/-- The place of the rows outside the database. Whether it is the text after the statement. -/
def copyTarget : Parser Bool := do
  if ← keyword? "STDIN" then return true
  else if ← keyword? "STDOUT" then return false
  else
    let _ ← keyword? "PROGRAM"
    let _ ← textLiteral
    return false

/-- The rows that follow the statement, up to a backslash and a period or the end of the text. -/
def inlineRows : Parser Unit := do
  let _ ← iterate (fun (going : Bool) => do
    if !going then return none
    match ← next with
    | none => return none
    | some (.symbol "\\") =>
      if ← symbol? "." then return some false
      else
        skip
        return some true
    | some _ => return some true) true

/-- COPY after its keyword. -/
def copy (r : Rules) : Parser Unit := do
  let isQuery ← copySource r
  let direction ← expectAnyKeyword ["FROM", "TO"]
  if isQuery && direction == "FROM" then refuse
  let isInline ← copyTarget
  let _ ← keyword? "WITH"
  if ← atSymbol "(" then
    let _ ← parenthesised (commaSeparated copyOption)
  eachTime do return (← attempt olderCopyOption).isSome
  if isInline then
    expectSymbol ";"
    inlineRows

/-- UNLOAD after its keyword. -/
def unload (r : Rules) : Parser Unit := do
  let _ ← parenthesised r.query
  expectKeyword "TO"
  let _ ← name
  let _ ← options? r ["WITH"]

end ColumnOrigin.Sql.Parser
