import ColumnOrigin.Dialect.Basic
import ColumnOrigin.Diagnostic
import ColumnOrigin.Names

/-! Reports on the attribution of a configuration's resources. -/

namespace ColumnOrigin

structure ReportVersion where
  major : Nat
  minor : Nat
deriving Repr, DecidableEq

namespace ReportVersion

def current : ReportVersion := ⟨1, 0⟩

def text (v : ReportVersion) : String := toString v.major ++ "." ++ toString v.minor

end ReportVersion

/-- How many diagnostics there are, in all and of each severity, and how many resources. -/
structure ReportSummary where
  total : Nat
  errors : Nat
  warnings : Nat
  info : Nat
  resources : Nat
deriving Repr, DecidableEq

namespace ReportSummary

def empty : ReportSummary := ⟨0, 0, 0, 0, 0⟩

def count (s : ReportSummary) (d : Diagnostic) : ReportSummary :=
  match d.severity with
  | .error => { s with total := s.total + 1, errors := s.errors + 1 }
  | .warn => { s with total := s.total + 1, warnings := s.warnings + 1 }
  | .info => { s with total := s.total + 1, info := s.info + 1 }

end ReportSummary

/-- What is known about the columns of one resource. -/
structure ResourceReport where
  name : String
  defaultTable : String
  aliases : NameMap String
  origins : NameMap String
  diagnostics : List Diagnostic

structure Report where
  version : ReportVersion
  database : Database
  summary : ReportSummary
  resources : List ResourceReport

namespace Report

def empty (database : Database) : Report := ⟨.current, database, .empty, []⟩

def add (r : Report) (resource : ResourceReport) : Report :=
  let counted := resource.diagnostics.foldl ReportSummary.count r.summary
  { r with
    summary := { counted with resources := counted.resources + 1 }
    resources := r.resources ++ [resource] }

def hasErrors (r : Report) : Bool := 0 < r.summary.errors

end Report

end ColumnOrigin
