import ColumnOrigin.Command.Style
import ColumnOrigin.Query.Resolver

/-! The tables of single columns as text for a reader. -/

namespace ColumnOrigin.Command

/-- The table of a column, as generated SQL names it. -/
structure ColumnEntry where
  column : String
  qualifiedTable : String
  /-- Nothing is known about the column, so that it belongs to the default table. -/
  isDefault : Bool
deriving Repr, DecidableEq

namespace ColumnEntry

def ofColumn (dialect : Dialect) (resource : Resource) (r : Resolver) (column : String) :
    ColumnEntry where
  column
  qualifiedTable := dialect.qualifiedTableName resource.database (r.tableOf column)
  isDefault := r.tableOf column = r.defaultTable && !r.origins.contains (dialect.fold column)

def line (e : ColumnEntry) : Line :=
  [.bold e.column, .plain " -> ", .coloured .green e.qualifiedTable] ++
    if e.isDefault then [.dimmed " (default)"] else []

end ColumnEntry

/-- A diagnostic that is not part of a report. -/
def noticeLine (d : Diagnostic) : Line := [.coloured .yellow d.text]

end ColumnOrigin.Command
