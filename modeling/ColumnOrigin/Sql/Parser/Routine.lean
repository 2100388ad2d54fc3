import ColumnOrigin.Sql.Parser.ColumnDefinition
import ColumnOrigin.Sql.Parser.Statements

/-! Definitions of code that the database runs: functions, triggers, macros and procedures. -/

namespace ColumnOrigin.Sql.Parser

/-! ## Functions -/

/-- An argument of a function. A type that the language does not know is the argument's name, and
the type follows. -/
def functionArgument (r : Rules) : Parser Unit := do
  let _ ← anyKeyword? ["IN", "OUT", "INOUT"]
  if (← r.wholeType) == .custom then
    let _ ← r.wholeType
  let hasDefault ← (do if ← keyword? "DEFAULT" then return true else symbol? "=")
  if hasDefault then
    let _ ← r.wholeExpr

/-- The arguments of a function in parentheses. -/
def functionArguments (r : Rules) : Parser Unit :=
  discard (parenthesised (commaSeparatedUntil ")" (functionArgument r)))

/-- A function by its name, perhaps with its arguments. -/
def functionReference (r : Rules) : Parser Unit := do
  let _ ← dottedName
  if ← atSymbol "(" then functionArguments r

/-- The text of a function. -/
def functionText : Parser Unit := do
  match ← peek with
  | some (.literal .dollarQuoted) => skip
  | _ => let _ ← textLiteral

/-- What a function does, if that is next. -/
def functionBody? (r : Rules) : Parser Bool := do
  if ← after? ["AS"] functionText then return true
  else after? ["RETURN"] (discard r.wholeExpr)

/-- CREATE FUNCTION after those words. -/
def createFunction (r : Rules) : Parser Unit := do
  if ← inGrammar [.mySql] then refuse
  let _ ← dottedName
  functionArguments r
  let _ ← after? ["RETURNS"] (discard r.wholeType)
  eachOnce [
    functionBody? r,
    after? ["LANGUAGE"] (discard name),
    anyKeywords? [["IMMUTABLE"], ["STABLE"], ["VOLATILE"]],
    anyKeywords? [["CALLED", "ON", "NULL", "INPUT"], ["RETURNS", "NULL", "ON", "NULL", "INPUT"],
      ["STRICT"]],
    after? ["PARALLEL"] (discard (expectAnyKeyword ["UNSAFE", "RESTRICTED", "SAFE"]))]

/-- CREATE MACRO after those words. -/
def createMacro (r : Rules) : Parser Unit := do
  unless ← inGrammar [.standard] do refuse
  let _ ← dottedName
  let _ ← parenthesised (commaSeparatedUntil ")" do
    let _ ← name
    let hasDefault ← (do if ← symbol? ":=" then return true else symbol? "=>")
    if hasDefault then
      let _ ← r.wholeExpr)
  expectKeyword "AS"
  if ← keyword? "TABLE" then
    let _ ← r.query
  else
    let _ ← r.wholeExpr

/-! ## Triggers -/

/-- A change of rows that a trigger waits for. -/
def triggerEvent : Parser Unit := do
  if (← expectAnyKeyword ["INSERT", "UPDATE", "DELETE", "TRUNCATE"]) == "UPDATE" then
    let _ ← after? ["OF"] (discard (commaSeparated name))

/-- The rows before or after a change as a table, if one is next. -/
def transitionTable? : Parser Bool := do
  match ← anyKeyword? ["OLD", "NEW"] with
  | none => return false
  | some _ =>
    after? ["TABLE"] do
      let _ ← keyword? "AS"
      let _ ← dottedName

/-- CREATE TRIGGER after those words. -/
def createTrigger (r : Rules) : Parser Unit := do
  if ← inGrammar [.mySql] then refuse
  let _ ← dottedName
  if (← expectAnyKeyword ["BEFORE", "AFTER", "INSTEAD"]) == "INSTEAD" then expectKeyword "OF"
  triggerEvent
  eachTime (after? ["OR"] triggerEvent)
  expectKeyword "ON"
  let _ ← dottedName
  let _ ← after? ["FROM"] looseName
  constraintTiming
  let _ ← after? ["REFERENCING"] (eachTime transitionTable?)
  expectKeyword "FOR"
  let _ ← keyword? "EACH"
  let _ ← expectAnyKeyword ["ROW", "STATEMENT"]
  let _ ← after? ["WHEN"] (discard r.wholeExpr)
  expectKeyword "EXECUTE"
  let _ ← expectAnyKeyword ["FUNCTION", "PROCEDURE"]
  functionReference r

/-! ## Procedures -/

/-- The parameters of a procedure in parentheses, if they are there. Commas may be too many. -/
def procedureParameters? (r : Rules) : Parser Unit := do
  if ← symbol? "(" then
    unless ← symbol? ")" do
      let _ ← iterate (fun (isOpen : Bool) => do
        if !isOpen then return none
        match ← peek with
        | some (.word _) =>
          let _ ← name
          let _ ← r.wholeType
        | _ => pure ()
        let comma ← symbol? ","
        if ← symbol? ")" then return some false
        else if comma then return some true
        else refuse) true

/-- CREATE PROCEDURE after those words. -/
def createProcedure (r : Rules) : Parser Unit := do
  let _ ← dottedName
  procedureParameters? r
  expectKeywords ["AS", "BEGIN"]
  let _ ← statements r
  expectKeyword "END"

end ColumnOrigin.Sql.Parser
