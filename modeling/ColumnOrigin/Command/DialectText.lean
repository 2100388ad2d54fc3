import ColumnOrigin.Command.Style
import ColumnOrigin.Dialect.Basic

/-! The conventions of a database as text for a reader. -/

namespace ColumnOrigin

def Database.title : Database → String
  | .oracle => "Oracle"
  | .postgres => "Postgres"
  | .mySql => "MySql"
  | .ansi => "Ansi"

def CaseFolding.title : CaseFolding → String
  | .upper => "Upper"
  | .lower => "Lower"
  | .preserve => "Preserve"

def SequenceStyle.title : SequenceStyle → String
  | .nextvalCall => "NextvalCall"
  | .oracleNextval => "OracleNextval"
  | .autoIncrement => "AutoIncrement"

def TableQualification.title : TableQualification → String
  | .bare => "Bare"
  | .schemaDotTable => "SchemaDotTable"

namespace Command

def dialectLines (d : Dialect) : List Line := [
  [.bold "Dialect:", .plain (" " ++ d.database.title)],
  [.bold "Case folding:", .plain (" " ++ d.caseFolding.title)],
  [.bold "Sequence defaults:", .plain (" " ++ d.sequenceStyle.title)],
  [.bold "Table qualification:", .plain (" " ++ d.qualification.title)],
  [.bold "Pagination:", .plain (d.limitClause 10 0)],
  [],
  [.bold "Columns query:"],
  [.plain ("  " ++ d.columnsQuery)],
  [.bold "Primary key query:"],
  [.plain ("  " ++ d.primaryKeyQuery)]]

end Command

end ColumnOrigin
