/-! Diagnostics. Attribution never fails: a query that cannot be read, a construct that is not
supported and a catalog that does not answer all leave a diagnostic and a usable result. -/

namespace ColumnOrigin

/-- Ordered from the mildest to the gravest. -/
inductive Severity where
  | info
  | warn
  | error
deriving Repr, DecidableEq

namespace Severity

def text : Severity → String
  | .info => "info"
  | .warn => "warn"
  | .error => "error"

def rank : Severity → Nat
  | .info => 0
  | .warn => 1
  | .error => 2

instance : Ord Severity := ⟨fun a b => compare a.rank b.rank⟩

end Severity

/-- The stable name of a kind of diagnostic. -/
inductive DiagnosticCode where
  | sqlParseError
  | sqlUnsupportedSyntax
  | sqlUnsupportedFrom
  | sqlAmbiguousProjection
  | sqlDanglingCorrelation
  | catalogFetchFailed
deriving Repr, DecidableEq

namespace DiagnosticCode

def text : DiagnosticCode → String
  | .sqlParseError => "SQL_PARSE_ERROR"
  | .sqlUnsupportedSyntax => "SQL_UNSUPPORTED_SYNTAX"
  | .sqlUnsupportedFrom => "SQL_UNSUPPORTED_FROM"
  | .sqlAmbiguousProjection => "SQL_AMBIGUOUS_PROJECTION"
  | .sqlDanglingCorrelation => "SQL_DANGLING_CORRELATION"
  | .catalogFetchFailed => "CATALOG_FETCH_FAILED"

end DiagnosticCode

structure Diagnostic where
  code : DiagnosticCode
  severity : Severity
  message : String
  /-- The resource it was raised for. -/
  context : Option String := none
  /-- The name or construct it is about. -/
  subject : Option String := none
deriving Repr, DecidableEq

namespace Diagnostic

def withContext (d : Diagnostic) (context : String) : Diagnostic :=
  { d with context := some context }

def withSubject (d : Diagnostic) (subject : String) : Diagnostic :=
  { d with subject := some subject }

/-- One line: severity, code, context if there is one, message. -/
def text (d : Diagnostic) : String :=
  let place := match d.context with
    | some context => " " ++ context ++ ":"
    | none => ""
  d.severity.text ++ " [" ++ d.code.text ++ "]" ++ place ++ " " ++ d.message

end Diagnostic

end ColumnOrigin
