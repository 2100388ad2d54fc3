import ColumnOrigin.Catalog.Table
import ColumnOrigin.Column
import ColumnOrigin.Query.Resolver

/-! The columns of a result, with the tables they were attributed to and what the catalog knows
about them. A table is asked about once, when its first column comes; if that fails, its columns
keep what the driver says, and one diagnostic is left. -/

namespace ColumnOrigin

/-- A column as the driver reports it. -/
structure DriverColumn where
  name : String
  label : String
  typeName : String
  readOnly : Bool
deriving Repr, DecidableEq

/-- The catalog's answers about one table. Names are folded. -/
structure TableCatalog where
  columns : NameMap CatalogColumn
  primaryKeys : NameSet

namespace TableCatalog

/-- Of two rows with one folded name the later counts. -/
def ofRows (dialect : Dialect) (rows : List CatalogColumn) (keys : List String) : TableCatalog where
  columns := NameMap.ofEntries (rows.map fun row => (dialect.fold row.name, row))
  primaryKeys := NameSet.ofNames (keys.map dialect.fold)

/-- What the catalog adds to a column of the table. A sequence is looked for in the default first
and then in the further attributes. -/
def stamp (dialect : Dialect) (catalog : TableCatalog) (column : Column) : Column :=
  let key := dialect.fold column.name
  let column := { column with primaryKey := catalog.primaryKeys.contains key }
  match catalog.columns[key]? with
  | none => column
  | some row =>
    let column := { column with defaultValue := row.defaultValue }
    match (row.defaultValue.toList ++ row.extra.toList).findSome? dialect.detectSequence with
    | some s => column.withSequence s
    | none => column

end TableCatalog

/-- The columns of a result and the diagnostics about their catalogs. -/
structure Assembled where
  columns : List Column
  diagnostics : List Diagnostic
deriving Repr, DecidableEq

namespace Assembled

/-- The tables that generated SQL may write, each once, in the order of their first columns. -/
def writableTables (a : Assembled) : List String :=
  ((a.columns.filter Column.isWritable).map (·.qualifiedTableName)).eraseDups

end Assembled

/-- The catalogs asked about so far, by table, and what was made of the answers. A table that could
not be read has no catalog and is not asked about again. -/
structure Assembly where
  catalogs : NameMap (Option TableCatalog)
  result : Assembled

namespace Assembly

variable {m : Type → Type} [Monad m]

def start : Assembly := ⟨∅, ⟨[], []⟩⟩

/-- The catalog of a table: its rows, and if they come, its keys. -/
def fetch (adapter : CatalogAdapter m) (dialect : Dialect) (table : TableIdentifier) :
    m (Except FetchError TableCatalog) := do
  match ← adapter.fetchColumns table with
  | .error e => pure (.error e)
  | .ok rows =>
    match ← adapter.fetchPrimaryKeys table with
    | .error e => pure (.error e)
    | .ok keys => pure (.ok (.ofRows dialect rows keys))

def fetchFailed (resource : String) (table : TableIdentifier) (e : FetchError) : Diagnostic where
  code := .catalogFetchFailed
  severity := .warn
  message := "Failed to read catalog for " ++ table.qualifiedName ++ ": " ++ e.text
  context := some resource
  subject := some table.qualifiedName

/-- The assembly with the answer about a table. -/
def learn (resource : Resource) (table : TableIdentifier) (a : Assembly) :
    Except FetchError TableCatalog → Assembly
  | .ok catalog => { a with catalogs := a.catalogs.insert table.table (some catalog) }
  | .error e =>
    { catalogs := a.catalogs.insert table.table none
      result := { a.result with
        diagnostics := a.result.diagnostics ++ [fetchFailed resource.name table e] } }

/-- Asks about a table, unless that has been done. -/
def consult (adapter : CatalogAdapter m) (dialect : Dialect) (resource : Resource)
    (table : String) (a : Assembly) : m Assembly := do
  if a.catalogs.contains table then pure a
  else
    let identifier : TableIdentifier := ⟨resource.database, table⟩
    return a.learn resource identifier (← fetch adapter dialect identifier)

/-- The column as the driver and its attribution give it. -/
def attributed (dialect : Dialect) (resource : Resource) (table : String) (number : Nat)
    (d : DriverColumn) : Column :=
  let qualified := dialect.qualifiedTableName resource.database table
  { number
    name := d.name
    label := dialect.qualifiedColumnLabel table qualified d.readOnly d.label
    dataType := d.typeName
    tableName := table
    qualifiedTableName := qualified
    readOnly := d.readOnly }

/-- The column with what the catalog adds, if its table could be read. -/
def stamped (dialect : Dialect) (a : Assembly) (column : Column) : Column :=
  match a.catalogs[column.tableName]? with
  | some (some catalog) => catalog.stamp dialect column
  | _ => column

/-- Adds the next column of the result. -/
def add (adapter : CatalogAdapter m) (dialect : Dialect) (resource : Resource)
    (resolver : Resolver) (a : Assembly) (d : DriverColumn) : m Assembly := do
  let table := resolver.tableOf d.name
  let a ← consult adapter dialect resource table a
  let column := attributed dialect resource table (a.result.columns.length + 1) d
  pure { a with result := { a.result with
    columns := a.result.columns ++ [stamped dialect a column] } }

end Assembly

/-- The columns of a resource's result, in the driver's order. -/
def assemble {m : Type → Type} [Monad m] (adapter : CatalogAdapter m) (dialect : Dialect)
    (resource : Resource) (resolver : Resolver) (columns : List DriverColumn) : m Assembled := do
  return (← columns.foldlM (Assembly.add adapter dialect resource resolver) .start).result

end ColumnOrigin
