import ColumnOrigin.Encoding.Catalog
import ColumnOrigin.Encoding.Column
import ColumnOrigin.Encoding.Config
import ColumnOrigin.Encoding.Report
import ColumnOrigin.Proofs.Data.Decoder

/-!
# What is written is read back

Reports, configurations, columns and catalog rows are written as data and read back as they were.
Numbers are read into words of 32 or 64 bits, so those that fit (`Fits`) are read back.
-/

namespace ColumnOrigin
variable {format : Format}

namespace Severity

@[simp] theorem decoder_encode (s : Severity) : decoder format s.encode = some s := by
  cases s <;> rfl

@[simp] theorem inOnePlace_encode (s : Severity) : s.encode.InOnePlace := .string s.text

end Severity

namespace DiagnosticCode

@[simp] theorem decoder_encode (c : DiagnosticCode) : decoder format c.encode = some c := by
  cases c <;> rfl

@[simp] theorem inOnePlace_encode (c : DiagnosticCode) : c.encode.InOnePlace := .string c.text

end DiagnosticCode

namespace Database

@[simp] theorem decoder_encode (d : Database) : decoder format d.encode = some d := by
  cases d <;> rfl

@[simp] theorem inOnePlace_encode (d : Database) : d.encode.InOnePlace := .string d.text

end Database

namespace Diagnostic

@[simp] theorem decoder_encode (d : Diagnostic) : decoder format d.encode = some d := by
  simp [decoder, encode]

@[simp] theorem inOnePlace_encode (d : Diagnostic) : d.encode.InOnePlace := by
  simp +contextual [encode, or_imp]

end Diagnostic

namespace CatalogColumn

theorem decoder_encode (c : CatalogColumn) : decoder format c.encode = some c := by
  simp [decoder, encode]

theorem inOnePlace_encode (c : CatalogColumn) : c.encode.InOnePlace := by
  simp +contextual [encode, or_imp]

end CatalogColumn

namespace Column

/-- The number has 64 bits. -/
def Fits (c : Column) : Prop := c.number < Nat.pow 2 64

theorem decoder_encode_iff (c : Column) : decoder format c.encode = some c ↔ c.Fits := by
  by_cases fits : c.Fits
  · have read : Decoder.word64 format (.natural c.number) = some c.number := if_pos fits
    simp [decoder, encode, ↓Decoder.bind_eq_elim, read, fits, -Decoder.word64_natural]
  · have unread : Decoder.word64 format (.natural c.number) = none := if_neg fits
    simp [decoder, encode, ↓Decoder.bind_eq_elim, unread, fits, -Decoder.word64_natural]

theorem inOnePlace_encode (c : Column) : c.encode.InOnePlace := by
  simp +contextual [encode, or_imp]

end Column

namespace Resource

@[simp] theorem decoder_encode (r : Resource) : decoder format r.encode = some r := by
  simp [decoder, encode]

@[simp] theorem inOnePlace_encode (r : Resource) : r.encode.InOnePlace := by
  simp +contextual [encode, or_imp]

end Resource

namespace ReportVersion

/-- Both parts have 32 bits. -/
def Fits (v : ReportVersion) : Prop := v.major < Nat.pow 2 32 ∧ v.minor < Nat.pow 2 32

theorem decoder_encode_iff (format : Format) (v : ReportVersion) :
    decoder format v.encode = some v ↔ v.Fits := by
  simp [decoder, encode, Fits, Option.bind_eq_some_iff]

end ReportVersion

namespace ReportSummary

/-- All counts have 64 bits. -/
def Fits (s : ReportSummary) : Prop :=
  s.total < Nat.pow 2 64 ∧ s.errors < Nat.pow 2 64 ∧ s.warnings < Nat.pow 2 64 ∧
    s.info < Nat.pow 2 64 ∧ s.resources < Nat.pow 2 64

theorem decoder_encode_iff (format : Format) (s : ReportSummary) :
    decoder format s.encode = some s ↔ s.Fits := by
  simp [decoder, encode, Fits, Option.bind_eq_some_iff]

end ReportSummary

namespace ResourceReport

@[simp] theorem decoder_encode (r : ResourceReport) : decoder format r.encode = some r := by
  have diagnostics : Decoder.list Diagnostic.decoder format
      (.list (r.diagnostics.map Diagnostic.encode)) = some r.diagnostics :=
    Decoder.list_map fun d _ => d.decoder_encode
  simp [decoder, encode, diagnostics]

@[simp] theorem inOnePlace_encode (r : ResourceReport) : r.encode.InOnePlace := by
  have aliases : r.aliases.encodeStrings.InOnePlace := NameMap.inOnePlace_encode .string
  have origins : r.origins.encodeStrings.InOnePlace := NameMap.inOnePlace_encode .string
  simp [encode, aliases, origins]

end ResourceReport

namespace Report

/-- Its version and its counts fit. -/
def Fits (r : Report) : Prop := r.version.Fits ∧ r.summary.Fits

theorem decoder_encode_iff (r : Report) : decoder format r.encode = some r ↔ r.Fits := by
  have resources : Decoder.list ResourceReport.decoder format
      (.list (r.resources.map ResourceReport.encode)) = some r.resources :=
    Decoder.list_map fun entry _ => entry.decoder_encode
  rw [Fits, ← ReportVersion.decoder_encode_iff format, ← ReportSummary.decoder_encode_iff format]
  obtain ⟨version, database, summary, entries⟩ := r
  cases readVersion : ReportVersion.decoder format version.encode with
  | none => simp [decoder, encode, readVersion]
  | some _ =>
    cases readSummary : ReportSummary.decoder format summary.encode with
    | none => simp [decoder, encode, readVersion, readSummary]
    | some _ => simp [decoder, encode, readVersion, readSummary, resources]

theorem inOnePlace_encode (r : Report) : r.encode.InOnePlace := by
  simp [encode, ReportVersion.encode, ReportSummary.encode]

end Report

namespace SeverityOverrides

/-- The value is a record of the overrides, in whatever order. -/
def WrittenAs (s : SeverityOverrides) (v : Value) : Prop :=
  ∃ entries : List (String × Severity), entries.Perm s.overrides.toList ∧
    v = .record [("overrides", .record (entries.map fun e => (e.1, Severity.encode e.2)))]

theorem writtenAs_encode (s : SeverityOverrides) : s.WrittenAs s.encode :=
  ⟨s.overrides.toList, List.Perm.refl _, rfl⟩

theorem decoder_of_writtenAs {s : SeverityOverrides} {v : Value} (written : s.WrittenAs v) :
    decoder format v = some s := by
  obtain ⟨entries, perm, rfl⟩ := written
  simp [decoder, NameMap.decoder_of_perm Severity.decoder_encode perm]

theorem inOnePlace_of_writtenAs {s : SeverityOverrides} {v : Value} (written : s.WrittenAs v) :
    v.InOnePlace := by
  obtain ⟨entries, perm, rfl⟩ := written
  simpa using Value.inOnePlace_entries Severity.inOnePlace_encode entries

end SeverityOverrides

namespace Config

/-- The value is a record of the configuration, with its overrides in whatever order. -/
def WrittenAs (c : Config) (v : Value) : Prop :=
  ∃ severities, c.severities.WrittenAs severities ∧
    v = .record [
      ("dialect", c.database.encode),
      ("severity", severities),
      ("resources", .list (c.resources.map Resource.encode))]

theorem writtenAs_encode (c : Config) : c.WrittenAs c.encode :=
  ⟨c.severities.encode, c.severities.writtenAs_encode, rfl⟩

theorem decoder_of_writtenAs {c : Config} {v : Value} (written : c.WrittenAs v) :
    decoder format v = some c := by
  obtain ⟨severities, overrides, rfl⟩ := written
  have resources : Decoder.list Resource.decoder format
      (.list (c.resources.map Resource.encode)) = some c.resources :=
    Decoder.list_map fun r _ => r.decoder_encode
  simp [decoder, resources, SeverityOverrides.decoder_of_writtenAs overrides]

theorem inOnePlace_of_writtenAs {c : Config} {v : Value} (written : c.WrittenAs v) :
    v.InOnePlace := by
  obtain ⟨severities, overrides, rfl⟩ := written
  simp [SeverityOverrides.inOnePlace_of_writtenAs overrides]

end Config

/-- **What is written as JSON is read back.** Reports and columns are read back exactly when their
numbers fit, and all else always, with a configuration's overrides in any order. An optional field
that is left out when there is nothing in it is written exactly when there is something. -/
theorem json_round_trip :
    (∀ r : Report, Report.ofJson? r.toJson = some r ↔ r.Fits) ∧
    (∀ c : Column, (Column.decoder.Reads c.encode c ↔ c.Fits) ∧
      ("default_value" ∈ c.encode.keys ↔ c.defaultValue.isSome) ∧
      ("sequence_name" ∈ c.encode.keys ↔ c.sequenceName.isSome)) ∧
    (∀ c : CatalogColumn, CatalogColumn.decoder.Reads c.encode c) ∧
    (∀ d : Diagnostic, Diagnostic.decoder.Reads d.encode d ∧
      ("context" ∈ d.encode.keys ↔ d.context.isSome) ∧
      ("subject" ∈ d.encode.keys ↔ d.subject.isSome)) ∧
    (∀ s : SeverityOverrides, s.WrittenAs s.encode ∧
      ∀ v, s.WrittenAs v → SeverityOverrides.decoder.Reads v s) ∧
    (∀ r : Resource, Resource.decoder.Reads r.encode r ∧
      ("database" ∈ r.encode.keys ↔ r.database.isSome)) ∧
    (∀ c : Config, c.WrittenAs c.encode ∧ ∀ v, c.WrittenAs v → Config.decoder.Reads v c) := by
  refine ⟨?report, ?column, ?catalogColumn, ?diagnostic, ?overrides, ?resource, ?config⟩
  case report =>
    intro r
    rw [Report.ofJson?, Report.toJson, Json.parse?_print _ r.inOnePlace_encode, Option.bind_some]
    exact r.decoder_encode_iff
  case column =>
    intro c
    refine ⟨?_, ?_, ?_⟩
    · rw [Decoder.reads_iff c.inOnePlace_encode]
      exact c.decoder_encode_iff
    · simp [Column.encode]
    · simp [Column.encode]
  case catalogColumn =>
    intro c
    exact (Decoder.reads_iff c.inOnePlace_encode c).mpr c.decoder_encode
  case diagnostic =>
    intro d
    refine ⟨(Decoder.reads_iff d.inOnePlace_encode d).mpr d.decoder_encode, ?_, ?_⟩
    · simp [Diagnostic.encode]
    · simp [Diagnostic.encode]
  case overrides =>
    intro s
    refine ⟨s.writtenAs_encode, fun v written => ?_⟩
    rw [Decoder.reads_iff (SeverityOverrides.inOnePlace_of_writtenAs written)]
    exact SeverityOverrides.decoder_of_writtenAs written
  case resource =>
    intro r
    refine ⟨(Decoder.reads_iff r.inOnePlace_encode r).mpr r.decoder_encode, ?_⟩
    simp [Resource.encode]
  case config =>
    intro c
    refine ⟨c.writtenAs_encode, fun v written => ?_⟩
    rw [Decoder.reads_iff (Config.inOnePlace_of_writtenAs written)]
    exact Config.decoder_of_writtenAs written

/-- Its numbers are the largest there are, and its names have quotes and controls in them. -/
def escapedReport : Report where
  version := ⟨Nat.pow 2 32 - 1, 0⟩
  database := .mySql
  summary := ⟨Nat.pow 2 64 - 1, 0, 1, 0, 1⟩
  resources := [{
    name := "\"\\/\x00\x1f\x7f"
    defaultTable := ""
    aliases := .ofEntries [("Σ\n", "\t"), ("", "😀")]
    origins := ∅
    diagnostics := [{ code := .sqlParseError, severity := .warn, message := "[]\x7b\x7d,:" }] }]

/-- Two severities are overridden, the later code in order of the names first. -/
def overriddenConfig : Config where
  database := .oracle
  severities := ⟨.ofEntries [("SQL_PARSE_ERROR", .warn), ("CATALOG_FETCH_FAILED", .error)]⟩
  resources := [{ name := "r", query := "SELECT 1", table := "t" }]

def overriddenValue : Value := .record [
  ("dialect", .string "oracle"),
  ("severity", .record [("overrides", .record [
    ("SQL_PARSE_ERROR", .string "warn"), ("CATALOG_FETCH_FAILED", .string "error")])]),
  ("resources", .list [.record [
    ("name", .string "r"), ("query", .string "SELECT 1"), ("table", .string "t")]])]

theorem json_round_trip_escaped :
    escapedReport.Fits ∧ Report.ofJson? escapedReport.toJson = some escapedReport ∧
      overriddenConfig.WrittenAs overriddenValue ∧
      Config.decoder.Reads overriddenValue overriddenConfig := by
  have fits : escapedReport.Fits := by
    simp [escapedReport, Report.Fits, ReportVersion.Fits, ReportSummary.Fits]
  have perm : [("SQL_PARSE_ERROR", Severity.warn), ("CATALOG_FETCH_FAILED", .error)].Perm
      overriddenConfig.severities.overrides.toList := by decide +kernel
  have written : overriddenConfig.WrittenAs overriddenValue := ⟨_, ⟨_, perm, rfl⟩, rfl⟩
  obtain ⟨report, -, -, -, -, -, config⟩ := json_round_trip
  exact ⟨fits, (report escapedReport).mpr fits, written, (config overriddenConfig).2 _ written⟩

end ColumnOrigin
