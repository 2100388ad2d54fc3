import ColumnOrigin.Data.Decoder
import ColumnOrigin.Diagnostic

/-! Diagnostics as data. -/

namespace ColumnOrigin

namespace Severity

def encode (s : Severity) : Value := .string s.text

def decoder : Decoder Severity := .oneOf [("info", .info), ("warn", .warn), ("error", .error)]

end Severity

namespace DiagnosticCode

def all : List DiagnosticCode := [
  .sqlParseError, .sqlUnsupportedSyntax, .sqlUnsupportedFrom, .sqlAmbiguousProjection,
  .sqlDanglingCorrelation, .catalogFetchFailed]

def encode (c : DiagnosticCode) : Value := .string c.text

def decoder : Decoder DiagnosticCode := .oneOf (all.map fun c => (c.text, c))

end DiagnosticCode

namespace Diagnostic

def encode (d : Diagnostic) : Value := .record ([
  ("code", d.code.encode),
  ("severity", d.severity.encode),
  ("message", .string d.message)] ++
  Value.whenSome "context" d.context ++
  Value.whenSome "subject" d.subject)

def decoder : Decoder Diagnostic := .record fun format fields => do
  let (code, fields) ← fields.take format "code" DiagnosticCode.decoder .required
  let (severity, fields) ← fields.take format "severity" Severity.decoder .required
  let (message, fields) ← fields.take format "message" .string .required
  let (context, fields) ← fields.take format "context" (.option .string) (.inRecord none)
  let (subject, fields) ← fields.take format "subject" (.option .string) (.inRecord none)
  pure (⟨code, severity, message, context, subject⟩, fields)

end Diagnostic

end ColumnOrigin
