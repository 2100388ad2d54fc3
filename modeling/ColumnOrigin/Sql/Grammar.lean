import ColumnOrigin.Dialect.Basic

/-! The variants of SQL that queries are read in. -/

namespace ColumnOrigin.Sql

/-- A variant of SQL. `standard` is the permissive reading of the standard for databases without a
variant of their own. -/
inductive Grammar where
  | standard
  | postgres
  | mySql
deriving Repr, DecidableEq

namespace Grammar

def ofDatabase : Database → Grammar
  | .oracle => standard
  | .postgres => postgres
  | .mySql => mySql
  | .ansi => standard

end Grammar

end ColumnOrigin.Sql
