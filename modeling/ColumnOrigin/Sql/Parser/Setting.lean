import ColumnOrigin.Sql.Parser.Transaction

/-! Statements about the settings of a session and the objects in it: SET and SHOW. -/

namespace ColumnOrigin.Sql.Parser

/-! ## SET -/

/-- What a SET is about. -/
inductive SettingTarget where
  /-- A setting whose name has no quotes and no dots. -/
  | plain (name : String)
  | other
  /-- Several settings in parentheses. -/
  | several

/-- The name of a setting, or several names in parentheses in the standard grammar. -/
def settingTarget : Parser SettingTarget := do
  if ← keywords? ["TIME", "ZONE"] then return .plain "TIMEZONE"
  else if (← inGrammar [.standard]) && (← atSymbol "(") then
    let _ ← nameList
    return .several
  else
    let first ← peek
    match first, ← dottedName with
    | some (.word w), [_] => if w.quote.isNone then return .plain w.text else return .other
    | _, _ => return .other

/-- The values of a setting. They may be queries without parentheses. -/
def settingValues (r : Rules) : Parser Unit := do
  let _ ← commaSeparated do
    if ← atSubquery then
      let _ ← r.query
    else
      let _ ← orRefuse r.wholeExpr

/-- The character set of the client, after NAMES. -/
def clientCharset : Parser Unit := do
  unless ← keyword? "DEFAULT" do
    let _ ← textLiteral
    let _ ← after? ["COLLATE"] (discard textLiteral)

/-- What follows a setting that has no sign of equality after it. -/
def settingPhrase (r : Rules) (target : SettingTarget) (hasModifier : Bool) : Parser Unit := do
  match target with
  | .plain text =>
    if text.toUpper == "TIMEZONE" then
      let _ ← orRefuse r.wholeExpr
    else if text == "CHARACTERISTICS" then
      expectKeywords ["AS", "TRANSACTION"]
      transactionModes
    else if text == "TRANSACTION" && !hasModifier then
      unless ← after? ["SNAPSHOT"] value do transactionModes
    else refuse
  | _ => refuse

/-- SET after its keyword and a modifier. -/
def setTarget (r : Rules) (hasModifier : Bool) : Parser Unit := do
  let target ← settingTarget
  let isNames ← match target with
    | .plain text => pure (text.toUpper == "NAMES" && (← grammar) != .postgres)
    | _ => pure false
  if isNames then clientCharset
  else
    let isAssigned ← (do if ← symbol? "=" then return true else keyword? "TO")
    if isAssigned then
      match target with
      | .several => parenthesised (settingValues r)
      | _ => settingValues r
    else settingPhrase r target hasModifier

/-- The role of a session, or none. -/
def sessionRole : Parser Unit := do
  expectKeyword "ROLE"
  unless ← keyword? "NONE" do
    let _ ← name

/-- SET after its keyword. -/
def setCommand (r : Rules) : Parser Unit := do
  match ← anyKeyword? ["SESSION", "LOCAL", "HIVEVAR"] with
  | some "HIVEVAR" =>
    expectSymbol ":"
    setTarget r true
  | modifier =>
    if (← attempt sessionRole).isNone then setTarget r modifier.isSome

/-! ## SHOW -/

/-- Which of the objects are shown. -/
def showFilter? (r : Rules) : Parser Unit := do
  if (← anyKeyword? ["LIKE", "ILIKE"]).isSome then
    let _ ← textLiteral
  else unless ← exprAfter? r "WHERE" do
    let _ ← attempt textLiteral

/-- Where the objects are that are shown, after FROM or IN. -/
def showPlace : Parser Unit := do
  match ← anyKeyword? ["ACCOUNT", "DATABASE", "SCHEMA", "TABLE", "VIEW"] with
  | none =>
    let _ ← dottedName
    if (← anyKeyword? ["FROM", "IN"]).isSome then
      let _ ← name
  | some k =>
    let starts := keywordOf (← peekAt 0) == "STARTS" && keywordOf (← peekAt 1) == "WITH"
    let ends := starts || (← atKeyword "LIMIT")
    unless (k == "DATABASE" || k == "SCHEMA") && ends do
      let _ ← attempt dottedName

/-- What narrows a list of objects. -/
def showOptions (r : Rules) : Parser Unit := do
  if (← anyKeyword? ["FROM", "IN"]).isSome then showPlace
  showFilter? r
  let _ ← after? ["STARTS", "WITH"] value
  if ← keyword? "LIMIT" then
    unless ← keyword? "ALL" do
      let _ ← r.wholeExpr
  let _ ← after? ["FROM"] value

/-- SHOW of a list of objects that EXTENDED and FULL may stand before, if one is next. -/
def showList? (r : Rules) (isExternal : Bool) : Parser Bool := do
  if ← anyKeywords? [["COLUMNS"], ["FIELDS"], ["MATERIALIZED", "VIEWS"], ["VIEWS"]] then
    showOptions r
    return true
  else if ← keyword? "TABLES" then
    unless isExternal do
      let _ ← keyword? "HISTORY"
    showOptions r
    return true
  else after? ["FUNCTIONS"] (showFilter? r)

/-- The statement that made an object, after SHOW CREATE. -/
def showDefinition : Parser Unit := do
  let _ ← expectAnyKeyword ["TABLE", "TRIGGER", "FUNCTION", "PROCEDURE", "EVENT", "VIEW"]
  let _ ← dottedName

/-- SHOW of anything else: the name of a setting goes on up to the end or a sign of equality,
whatever it consists of. -/
def showOther (r : Rules) : Parser Unit := do
  if ← after? ["CREATE"] showDefinition then pure ()
  else if ← after? ["COLLATION"] (showFilter? r) then pure ()
  else if ← keywordFor? [.standard, .mySql] ["VARIABLES"] then showFilter? r
  else if ← keywordFor? [.standard, .mySql] ["STATUS"] then showFilter? r
  else if (← anyKeyword? ["DATABASES", "SCHEMAS"]).isSome then
    let _ ← keyword? "HISTORY"
    showOptions r
  else modify fun tokens => tokens.dropWhile fun t => !isSymbol "=" (some t)

/-- SHOW after its keyword. -/
def showCommand (r : Rules) : Parser Unit := do
  let _ ← keyword? "TERSE"
  let extended ← keyword? "EXTENDED"
  let full ← keyword? "FULL"
  let _ ← keyword? "SESSION"
  let _ ← keyword? "GLOBAL"
  let isExternal ← keyword? "EXTERNAL"
  unless ← showList? r isExternal do
    if extended || full then refuse
    showOther r

end ColumnOrigin.Sql.Parser
