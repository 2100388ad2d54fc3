import ColumnOrigin.Data.Json.Parser
import ColumnOrigin.Data.Json.Printer
import ColumnOrigin.Encoding.Diagnostic
import ColumnOrigin.Encoding.Dialect
import ColumnOrigin.Encoding.Names
import ColumnOrigin.Report

/-! Reports as data and as JSON text. -/

namespace ColumnOrigin

namespace ReportVersion

def encode (v : ReportVersion) : Value :=
  .record [("major", .natural v.major), ("minor", .natural v.minor)]

def decoder : Decoder ReportVersion := .record fun format fields => do
  let (major, fields) ← fields.take format "major" .word32 .required
  let (minor, fields) ← fields.take format "minor" .word32 .required
  pure (⟨major, minor⟩, fields)

end ReportVersion

namespace ReportSummary

def encode (s : ReportSummary) : Value := .record [
  ("total", .natural s.total),
  ("errors", .natural s.errors),
  ("warnings", .natural s.warnings),
  ("info", .natural s.info),
  ("resources", .natural s.resources)]

def decoder : Decoder ReportSummary := .record fun format fields => do
  let (total, fields) ← fields.take format "total" .word64 .required
  let (errors, fields) ← fields.take format "errors" .word64 .required
  let (warnings, fields) ← fields.take format "warnings" .word64 .required
  let (info, fields) ← fields.take format "info" .word64 .required
  let (resources, fields) ← fields.take format "resources" .word64 .required
  pure (⟨total, errors, warnings, info, resources⟩, fields)

end ReportSummary

namespace ResourceReport

def encode (r : ResourceReport) : Value := .record [
  ("name", .string r.name),
  ("default_table", .string r.defaultTable),
  ("aliases", r.aliases.encodeStrings),
  ("origins", r.origins.encodeStrings),
  ("diagnostics", .list (r.diagnostics.map Diagnostic.encode))]

def decoder : Decoder ResourceReport := .record fun format fields => do
  let (name, fields) ← fields.take format "name" .string .required
  let (defaultTable, fields) ← fields.take format "default_table" .string .required
  let (aliases, fields) ← fields.take format "aliases" NameMap.stringsDecoder .required
  let (origins, fields) ← fields.take format "origins" NameMap.stringsDecoder .required
  let (diagnostics, fields) ←
    fields.take format "diagnostics" (.list Diagnostic.decoder) .required
  pure (⟨name, defaultTable, aliases, origins, diagnostics⟩, fields)

end ResourceReport

namespace Report

def encode (r : Report) : Value := .record [
  ("version", r.version.encode),
  ("dialect", r.database.encode),
  ("summary", r.summary.encode),
  ("resources", .list (r.resources.map ResourceReport.encode))]

def decoder : Decoder Report := .record fun format fields => do
  let (version, fields) ← fields.take format "version" ReportVersion.decoder .required
  let (database, fields) ← fields.take format "dialect" Database.decoder .required
  let (summary, fields) ← fields.take format "summary" ReportSummary.decoder .required
  let (resources, fields) ←
    fields.take format "resources" (.list ResourceReport.decoder) .required
  pure (⟨version, database, summary, resources⟩, fields)

/-- The report as JSON, one field or item on each line. -/
def toJson (r : Report) : String := Json.print .pretty r.encode

/-- The report that a JSON text writes. -/
def ofJson? (text : String) : Option Report := (Json.parse? text).bind (decoder .json)

end Report

end ColumnOrigin
