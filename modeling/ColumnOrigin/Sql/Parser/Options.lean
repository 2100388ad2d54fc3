import ColumnOrigin.Sql.Parser.Rules

/-! Pieces that several definitions of tables, views and sequences share. -/

namespace ColumnOrigin.Sql.Parser

def ifExists? : Parser Unit := discard (keywords? ["IF", "EXISTS"])

def ifNotExists? : Parser Unit := discard (keywords? ["IF", "NOT", "EXISTS"])

/-- The cluster on which a table is, after ON CLUSTER. -/
def onCluster? : Parser Unit := discard (after? ["ON", "CLUSTER"] (discard name))

/-! ## Options of tables and views -/

/-- How the rows of a table are distributed, as an option. -/
def partitionOption (r : Rules) : Parser Unit := do
  expectKeyword "PARTITION"
  parenthesised do
    let _ ← name
    expectKeyword "RANGE"
    let _ ← anyKeyword? ["LEFT", "RIGHT"]
    expectKeywords ["FOR", "VALUES"]
    let _ ← parenthesised r.exprs

/-- How the rows of a table are ordered on disk, as an option. -/
def clusteredOption : Parser Unit := do
  if ← keywords? ["CLUSTERED", "COLUMNSTORE", "INDEX"] then
    if ← keyword? "ORDER" then
      let _ ← nameList
  else
    expectKeywords ["CLUSTERED", "INDEX"]
    let _ ← parenthesised (commaSeparated do
      let _ ← name
      anyKeyword? ["ASC", "DESC"])

/-- An option: a name with its value, or in the standard grammar one of three keywords. -/
def option (r : Rules) : Parser Unit := do
  let k := keywordOf (← peek)
  match if ← inGrammar [.standard] then k else "" with
  | "HEAP" => skip
  | "PARTITION" => partitionOption r
  | "CLUSTERED" => clusteredOption
  | _ =>
    let _ ← name
    expectSymbol "="
    let _ ← r.wholeExpr

/-- The options in parentheses after keywords, if those are there. -/
def options? (r : Rules) (ks : List String) : Parser Bool :=
  after? ks (discard (parenthesised (commaSeparated (option r))))

/-! ## Sequences -/

/-- The options of a sequence. Each has its place. -/
def sequenceOptions : Parser Unit := do
  if ← keyword? "INCREMENT" then
    let _ ← keyword? "BY"
    signedNumber
  bound "MINVALUE"
  bound "MAXVALUE"
  if ← keyword? "START" then
    let _ ← keyword? "WITH"
    signedNumber
  if ← keyword? "CACHE" then signedNumber
  let _ ← anyKeywords? [["NO", "CYCLE"], ["CYCLE"]]
where
  bound (k : String) : Parser Unit := do
    if ← keyword? k then signedNumber
    else
      let _ ← keywords? ["NO", k]

/-- The options of the sequence behind a column, in parentheses, if they are there. -/
def identityOptions? : Parser Unit := do
  if ← atSymbol "(" then parenthesised sequenceOptions

end ColumnOrigin.Sql.Parser
