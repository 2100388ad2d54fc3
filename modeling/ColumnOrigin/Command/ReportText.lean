import ColumnOrigin.Command.Style
import ColumnOrigin.Report

/-! A report as text for a reader. -/

namespace ColumnOrigin.Command

def rule : Line := [.coloured .brightBlue (String.ofList (List.replicate 60 '='))]

/-- A column that is attributed by name: its origin, and the table that the origin is an alias of
where that is another name. -/
structure OriginEntry where
  column : String
  origin : String
  table : Option String
deriving Repr, DecidableEq

namespace OriginEntry

/-- The table of the column. -/
def shown (e : OriginEntry) : String := e.table.getD e.origin

def line (e : OriginEntry) : Line :=
  let via := match e.table with
    | some table => " (" ++ table ++ ")"
    | none => ""
  [.plain ("    " ++ e.column ++ " -> " ++ e.origin ++ via)]

end OriginEntry

/-- The attributed columns of a resource, in the order of their names. -/
def originEntries (r : ResourceReport) : List OriginEntry :=
  r.origins.toList.map fun (column, origin) =>
    { column, origin, table := (r.aliases[origin]?).filter (· ≠ origin) }

def severityPiece : Severity → Piece
  | .error => .boldColoured .red "ERROR"
  | .warn => .boldColoured .yellow "WARN"
  | .info => .coloured .blue "INFO"

def diagnosticLine (d : Diagnostic) : Line :=
  [.plain "  [", severityPiece d.severity, .plain ("] " ++ d.code.text ++ ": " ++ d.message)]

def aliasLines (r : ResourceReport) : List Line :=
  if r.aliases.isEmpty then [[.plain "  ", .coloured .yellow "No aliases resolved"]]
  else [.plain "  ", .bold "Aliases:"] ::
    r.aliases.toList.map fun (name, table) => [.plain ("    " ++ name ++ " -> " ++ table)]

def originLines (r : ResourceReport) : List Line :=
  if r.origins.isEmpty then []
  else [.plain "  ", .bold "Column origins:"] :: (originEntries r).map OriginEntry.line

def resourceLines (r : ResourceReport) : List Line :=
  [[],
    [.bold "Resource:", .plain " ", .coloured .green r.name,
      .plain (" (default table: " ++ r.defaultTable ++ ")")]] ++
  aliasLines r ++ originLines r ++ r.diagnostics.map diagnosticLine

/-- A count, in green if it is nought. -/
def countPiece (other : String → Piece) (n : Nat) : Piece :=
  if n = 0 then .coloured .green (toString n) else other (toString n)

def summaryLines (s : ReportSummary) : List Line := [
  [],
  [.bold "Summary:"],
  [.plain ("  Resources: " ++ toString s.resources)],
  [.plain "  Errors:   ", countPiece (.boldColoured .red) s.errors],
  [.plain "  Warnings: ", countPiece (.coloured .yellow) s.warnings],
  [.plain ("  Info:     " ++ toString s.info)],
  rule]

def reportLines (r : Report) : List Line :=
  [[], rule, [.boldColoured .brightBlue "Column Origin Resolution Report"], rule] ++
    r.resources.flatMap resourceLines ++ summaryLines r.summary

end ColumnOrigin.Command
