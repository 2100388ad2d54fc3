import ColumnOrigin.Sql.Parser.ColumnDefinition

/-! Data types: in casts, before literals, and in the columns of tables and JSON documents. -/

namespace ColumnOrigin.Sql.Parser

/-- A length or precision in parentheses, if there is one. -/
def precision? : Parser Unit := do
  if ← symbol? "(" then
    let _ ← naturalLiteral
    expectSymbol ")"

/-- A precision and perhaps a scale in parentheses, if they are there. -/
def precisionScale? : Parser Unit := do
  if ← symbol? "(" then
    let _ ← commaPair
    expectSymbol ")"
where
  commaPair : Parser Unit := do
    let _ ← naturalLiteral
    if ← symbol? "," then
      let _ ← naturalLiteral

/-- The length of a character type in parentheses, if there is one. -/
def characterLength? : Parser Unit := do
  if ← symbol? "(" then
    unless ← keyword? "MAX" do
      let _ ← naturalLiteral
      let _ ← anyKeyword? ["CHARACTERS", "OCTETS"]
    expectSymbol ")"

def timeZone? : Parser Unit := do
  if (← anyKeyword? ["WITH", "WITHOUT"]).isSome then expectKeywords ["TIME", "ZONE"]

/-- The bracket that closes a type, unless one inside has been read with it; `>>` closes this type
and the one around it. -/
def closingAngle (alreadyClosed : Bool) : Parser Bool := do
  if alreadyClosed then return false
  else if ← symbol? ">" then return false
  else if ← symbol? ">>" then return true
  else refuse

/-- A field of a structure type: a type, perhaps with a name before it. -/
def structField (r : Rules) : Parser Bool := do
  match ← peekAt 0, ← peekAt 1 with
  | some (.word _), some (.word _) => skip
  | _, _ => pure ()
  return (← r.dataType).2

/-- The fields of a structure type in angle brackets, if there are any. Also whether a bracket of
the type around it has been read. -/
def structFields? (r : Rules) : Parser (Bool × Bool) := do
  if ← symbol? "<" then
    let closed ← iterate (fun (closed : Bool) => do
      if ← symbol? "," then
        if closed then refuse
        return some (← structField r)
      else return none) (← structField r)
    return (true, ← closingAngle closed)
  else return (false, false)

/-- The words and literals in parentheses after the name of a custom type, if there are any. -/
def typeModifiers? : Parser Unit := do
  if ← symbol? "(" then
    let _ ← iterate (fun (isOpen : Bool) => do
      if !isOpen then return none
      match ← next with
      | some (.word _) => return some true
      | some (.number _ _) => return some true
      | some (.string _) => return some true
      | some (.symbol ",") => return some true
      | some (.symbol ")") => return some false
      | _ => refuse) true

/-- The types that may have a length or precision after their name. -/
def typesWithPrecision : List String := [
  "FLOAT", "CLOB", "BINARY", "VARBINARY", "BLOB", "BYTES", "DATETIME", "TIMESTAMPTZ", "TIMETZ",
  "STRING"]

/-- The integer types that may have a display width and UNSIGNED after their name. -/
def typesWithWidth : List String := [
  "TINYINT", "INT2", "SMALLINT", "MEDIUMINT", "INT", "INT4", "INT8", "INTEGER", "BIGINT"]

/-- The types that are their name alone. -/
def plainTypes : List String := [
  "BOOLEAN", "BOOL", "REAL", "FLOAT4", "FLOAT32", "FLOAT64", "FLOAT8", "INT16", "INT32", "INT64",
  "INT128", "INT256", "UINT8", "UINT16", "UINT32", "UINT64", "UINT128", "UINT256", "TINYBLOB",
  "MEDIUMBLOB", "LONGBLOB", "UUID", "DATE", "DATE32", "JSON", "JSONB", "REGCLASS", "TEXT",
  "TINYTEXT", "MEDIUMTEXT", "LONGTEXT", "BYTEA", "TRIGGER"]

/-- The types with a precision and perhaps a scale. -/
def exactTypes : List String := ["NUMERIC", "DECIMAL", "DEC", "BIGNUMERIC", "BIGDECIMAL"]

/-- The rest of a character type after CHARACTER or CHAR. -/
def characterType : Parser Unit := do
  if ← keyword? "VARYING" then characterLength?
  else if ← keywords? ["LARGE", "OBJECT"] then precision?
  else characterLength?

/-- The type that the keyword `k`, which has been read, begins; none if it begins none. -/
def builtInType? (r : Rules) (k : String) : Parser (Option Bool) := do
  let standard ← inGrammar [.standard]
  if plainTypes.contains k then return some false
  else if typesWithPrecision.contains k then precision?; return some false
  else if typesWithWidth.contains k then
    precision?
    let _ ← keyword? "UNSIGNED"
    return some false
  else if exactTypes.contains k then precisionScale?; return some false
  else match k with
    | "DOUBLE" =>
      let _ ← keyword? "PRECISION"
      return some false
    | "VARCHAR" => characterLength?; return some false
    | "NVARCHAR" => characterLength?; return some false
    | "CHARACTER" => characterType; return some false
    | "CHAR" => characterType; return some false
    | "BIT" =>
      let _ ← keyword? "VARYING"
      precision?
      return some false
    | "TIMESTAMP" => precision?; timeZone?; return some false
    | "TIME" => precision?; timeZone?; return some false
    | "FIXEDSTRING" => let _ ← parenthesised naturalLiteral; return some false
    | "DATETIME64" =>
      parenthesised do
        let _ ← naturalLiteral
        if ← symbol? "," then
          let _ ← textLiteral
      return some false
    | "ENUM" => let _ ← parenthesised (commaSeparated enumValue); return some false
    | "ENUM8" => let _ ← parenthesised (commaSeparated enumValue); return some false
    | "ENUM16" => let _ ← parenthesised (commaSeparated enumValue); return some false
    | "SET" => let _ ← parenthesised (commaSeparated stringLiteral); return some false
    | "ARRAY" =>
      expectSymbol "<"
      return some (← closingAngle (← r.dataType).2)
    | "STRUCT" => if standard then return some (← structFields? r).2 else return none
    | "UNION" =>
      if standard then
        let _ ← parenthesised (commaSeparated (do let _ ← name; r.wholeType))
        return some false
      else return none
    | "NULLABLE" => if standard then ofType else return none
    | "LOWCARDINALITY" => if standard then ofType else return none
    | "MAP" =>
      if standard then
        parenthesised do
          let _ ← r.wholeType
          expectSymbol ","
          let _ ← r.wholeType
        return some false
      else return none
    | "NESTED" =>
      if standard then
        let _ ← parenthesised (commaSeparated (columnDefinition r))
        return some false
      else return none
    | "TUPLE" =>
      if standard then
        let _ ← parenthesised (commaSeparated (structField r))
        return some false
      else return none
    | _ => return none
where
  enumValue : Parser Unit := do
    let _ ← textLiteral
    if ← symbol? "=" then signedNumber
  ofType : Parser (Option Bool) := do
    let _ ← parenthesised r.wholeType
    return some false

/-- The type of the kind given, or the array type that the brackets after it make of it. -/
def arrayOf (kind : TypeKind) : Parser TypeKind :=
  iterate (fun (_ : TypeKind) => do
    if ← symbol? "[" then
      if ← inGrammar [.standard, .postgres] then
        let _ ← attempt naturalLiteral
      expectSymbol "]"
      return some .builtIn
    else return none) kind

/-- A data type, and whether a bracket of the type around it has been read with it. -/
def dataType (r : Rules) : Parser (TypeKind × Bool) := do
  match ← peek with
  | some (.word w) =>
    let start ← get
    skip
    if w.keyword == "INTERVAL" then return (← arrayOf .interval, false)
    else match ← builtInType? r w.keyword with
      | some closed => return (← arrayOf .builtIn, closed)
      | none =>
        set start
        let _ ← dottedName
        typeModifiers?
        return (← arrayOf .custom, false)
  | _ => refuse

end ColumnOrigin.Sql.Parser
