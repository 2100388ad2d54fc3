import ColumnOrigin.Dialect.Folding
import ColumnOrigin.Dialect.Sequence

/-! What differs between databases: how identifiers fold, which queries list a table's columns and
keys, how a sequence-backed default is written, how a table is named and how a page is asked for. -/

namespace ColumnOrigin

/-- The databases that are told apart. -/
inductive Database where
  | oracle
  | postgres
  | mySql
  | ansi
deriving Repr, DecidableEq

instance : Inhabited Database := ⟨.ansi⟩

/-- Whether a table is written with its schema. -/
inductive TableQualification where
  | bare
  | schemaDotTable
deriving Repr, DecidableEq

inductive PaginationStyle where
  | limitOffset
  | offsetFetch
deriving Repr, DecidableEq

/-- The conventions of one database. The two catalog queries take a schema and a table. -/
structure Dialect where
  database : Database
  caseFolding : CaseFolding
  columnsQuery : String
  primaryKeyQuery : String
  sequenceStyle : SequenceStyle
  qualification : TableQualification
  pagination : PaginationStyle
deriving Repr, DecidableEq

namespace Dialect

def oracle : Dialect where
  database := .oracle
  caseFolding := .upper
  columnsQuery := "select column_name, data_type, data_default from all_tab_columns " ++
    "where owner = ? and table_name = ?"
  primaryKeyQuery := "SELECT cols.column_name FROM all_constraints cons, all_cons_columns cols " ++
    "WHERE cons.owner = ? AND cols.table_name = ? " ++
    "AND cons.constraint_type = 'P' AND cons.constraint_name = cols.constraint_name"
  sequenceStyle := .oracleNextval
  qualification := .bare
  pagination := .offsetFetch

/-- The columns query of a database with the standard information schema. -/
def standardColumnsQuery : String :=
  "select column_name, data_type, column_default from information_schema.columns " ++
    "where table_schema = ? and table_name = ?"

/-- The key query of a database with the standard information schema. -/
def standardPrimaryKeyQuery : String :=
  "select kcu.column_name from information_schema.table_constraints tc, " ++
    "information_schema.key_column_usage kcu " ++
    "where tc.table_schema = ? and tc.table_name = ? " ++
    "and tc.constraint_type = 'PRIMARY KEY' " ++
    "and tc.constraint_name = kcu.constraint_name"

def postgres : Dialect where
  database := .postgres
  caseFolding := .lower
  columnsQuery := standardColumnsQuery
  primaryKeyQuery := standardPrimaryKeyQuery
  sequenceStyle := .nextvalCall
  qualification := .schemaDotTable
  pagination := .limitOffset

def mySql : Dialect where
  database := .mySql
  caseFolding := .preserve
  columnsQuery :=
    "select column_name, data_type, column_default, extra from information_schema.columns " ++
      "where table_schema = ? and table_name = ?"
  primaryKeyQuery := "select column_name from information_schema.key_column_usage " ++
    "where table_schema = ? and table_name = ? and constraint_name = 'PRIMARY'"
  sequenceStyle := .autoIncrement
  qualification := .schemaDotTable
  pagination := .limitOffset

def ansi : Dialect where
  database := .ansi
  caseFolding := .upper
  columnsQuery := standardColumnsQuery
  primaryKeyQuery := standardPrimaryKeyQuery
  sequenceStyle := .nextvalCall
  qualification := .schemaDotTable
  pagination := .limitOffset

def ofDatabase : Database → Dialect
  | .oracle => oracle
  | .postgres => postgres
  | .mySql => mySql
  | .ansi => ansi

instance : Inhabited Dialect := ⟨ofDatabase default⟩

def fold (d : Dialect) (name : String) : String := d.caseFolding.fold name

def metadataIsUpperCase (d : Dialect) : Bool := d.caseFolding == .upper

def detectSequence (d : Dialect) (columnDefault : String) : Option SequenceDefault :=
  d.sequenceStyle.detect columnDefault

/-- A table as generated SQL names it. An empty schema counts as none. -/
def qualifiedTableName (d : Dialect) (schema : Option String) (table : String) : String :=
  match d.qualification, schema with
  | .schemaDotTable, some schema => if schema = "" then table else schema ++ "." ++ table
  | _, _ => table

/-- The label under which a column is shown: none of the databases qualifies it. -/
def qualifiedColumnLabel (_ : Dialect) (_table _qualifiedTable : String) (_readOnly : Bool)
    (label : String) : String := label

/-- The clause that asks for `limit` rows after the first `offset` rows. -/
def limitClause (d : Dialect) (limit offset : Nat) : String :=
  match d.pagination with
  | .limitOffset => " LIMIT " ++ toString limit ++ " OFFSET " ++ toString offset
  | .offsetFetch =>
    " OFFSET " ++ toString offset ++ " ROWS FETCH NEXT " ++ toString limit ++ " ROWS ONLY"

end Dialect

end ColumnOrigin
