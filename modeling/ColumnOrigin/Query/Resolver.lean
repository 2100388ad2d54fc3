import ColumnOrigin.Config
import ColumnOrigin.Query.Correlations
import ColumnOrigin.Query.Origins
import ColumnOrigin.Report
import ColumnOrigin.Sql.Parser.Script

/-! Attribution: the base table that each column of a resource belongs to.

A resource's query is analysed once. Then any column name that the database reports is looked up
among the projected columns; what is not found there belongs to the resource's default table. -/

namespace ColumnOrigin

/-- The table of a column: its origin, through one alias at most, or the default table. -/
def resolveTable (folding : CaseFolding) (aliases origins : NameMap String) (defaultTable : String)
    (column : String) : String :=
  match origins[folding.fold column]? with
  | some origin => aliases[origin]?.getD origin
  | none => defaultTable

/-- What the analysis of a resource's query found. -/
structure Resolver where
  resource : String
  defaultTable : String
  folding : CaseFolding
  aliases : NameMap String
  origins : NameMap String
  diagnostics : List Diagnostic

namespace Resolver

def parseFailure (e : Sql.ParseError) : Diagnostic where
  code := .sqlParseError
  severity := .error
  message := "Failed to parse SQL: " ++ e.message

def danglingCorrelation (origin : String) : Diagnostic where
  code := .sqlDanglingCorrelation
  severity := .info
  message := "Qualifier '" ++ origin ++ "' is not declared in the FROM clause; " ++
    "used as a table name"
  subject := some origin

def unexpandedWildcard (folding : CaseFolding) (qualifier : String) : Diagnostic where
  code := .sqlUnsupportedSyntax
  severity := .warn
  message := "Wildcard '" ++ qualifier ++ ".*' is not expanded; " ++
    "its columns resolve to the default table"
  subject := some (folding.fold qualifier)

/-- The origins that no alias explains, each once. Without aliases there is nothing to compare
with, and none is reported. -/
def danglingOrigins (aliases origins : NameMap String) (unresolved : NameSet) : List String :=
  if aliases.isEmpty then []
  else (NameSet.ofNames (origins.values.filter fun origin =>
    !aliases.contains origin && !unresolved.contains origin)).toList

/-- The analysis of a query that has a shape. -/
def ofShape (resource : Resource) (folding : CaseFolding) (shape : Shape) : Resolver :=
  let correlations := Correlations.ofNodes folding shape.sources
  let projected := Origins.ofColumns folding shape.columns
  let origins := Origins.without projected.origins correlations.unresolved
  let dangling := danglingOrigins correlations.aliases origins correlations.unresolved
  { resource := resource.name
    defaultTable := resource.table
    folding
    aliases := correlations.aliases
    origins
    diagnostics := (correlations.diagnostics ++ projected.diagnostics ++
      dangling.map danglingCorrelation ++
      shape.qualifiedWildcards.map (unexpandedWildcard folding)).map
        (·.withContext resource.name) }

/-- The analysis of a query that has none: nothing is known, for one reason. -/
def unanalysed (resource : Resource) (folding : CaseFolding) (why : Diagnostic) : Resolver where
  resource := resource.name
  defaultTable := resource.table
  folding
  aliases := ∅
  origins := ∅
  diagnostics := [why.withContext resource.name]

/-- The shape of a query, or the diagnostic that says why it has none. -/
def shapeOf (database : Database) (query : String) : Except Diagnostic Shape :=
  match Sql.parse (.ofDatabase database) query with
  | .error e => .error (parseFailure e)
  | .ok statements =>
    match Shape.ofStatements statements with
    | .error u => .error u.diagnostic
    | .ok shape => .ok shape

def ofResource (dialect : Dialect) (resource : Resource) : Resolver :=
  match shapeOf dialect.database resource.query with
  | .ok shape => ofShape resource dialect.caseFolding shape
  | .error why => unanalysed resource dialect.caseFolding why

/-- The base table of a column, by the name that the database reports. -/
def tableOf (r : Resolver) (column : String) : String :=
  resolveTable r.folding r.aliases r.origins r.defaultTable column

def report (r : Resolver) : ResourceReport where
  name := r.resource
  defaultTable := r.defaultTable
  aliases := r.aliases
  origins := r.origins
  diagnostics := r.diagnostics

end Resolver

end ColumnOrigin
