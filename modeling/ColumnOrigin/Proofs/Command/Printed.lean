import ColumnOrigin.Command.Run
import ColumnOrigin.Proofs.Encoding.RoundTrip

/-!
# Printed reports

What a reader finds where a report is printed. The text gives the title, the entries in their order
and the summary, each on lines of its own. The JSON is read back as the report. That is what `Shows`
says, and what is printed shows the report in either format (`shows_formattedReport`).
-/

namespace ColumnOrigin

/-! ## What the text says -/

def Severity.label : Severity → String
  | .error => "ERROR"
  | .warn => "WARN"
  | .info => "INFO"

namespace ResourceReport
variable (r : ResourceReport)

def headTexts : List String :=
  ["", "Resource: " ++ r.name ++ " (default table: " ++ r.defaultTable ++ ")"]

def aliasTexts : List String :=
  if r.aliases.isEmpty then ["  No aliases resolved"]
  else "  Aliases:" :: r.aliases.toList.map fun (name, table) => "    " ++ name ++ " -> " ++ table

/-- The table of a column, in parentheses, where its origin is an alias of another name. -/
def tableNote (origin : String) : String :=
  match r.aliases[origin]? with
  | some table => if table = origin then "" else " (" ++ table ++ ")"
  | none => ""

def originTexts : List String :=
  if r.origins.isEmpty then []
  else "  Column origins:" :: r.origins.toList.map fun (column, origin) =>
    "    " ++ column ++ " -> " ++ origin ++ r.tableNote origin

def diagnosticTexts : List String :=
  r.diagnostics.map fun d =>
    "  [" ++ d.severity.label ++ "] " ++ d.code.text ++ ": " ++ d.message

/-- The entry of a resource: names are in their order, and diagnostics as they were found. -/
def texts : List String :=
  r.headTexts ++ r.aliasTexts ++ r.originTexts ++ r.diagnosticTexts

end ResourceReport

/-- The rule above and below the title, and at the end. -/
def Report.ruleText : String := String.ofList (List.replicate 60 '=')

def ReportSummary.texts (s : ReportSummary) : List String := [
  "",
  "Summary:",
  "  Resources: " ++ toString s.resources,
  "  Errors:   " ++ toString s.errors,
  "  Warnings: " ++ toString s.warnings,
  "  Info:     " ++ toString s.info,
  Report.ruleText]

namespace Report

def titleTexts : List String := ["", ruleText, "Column Origin Resolution Report", ruleText]

/-- What the lines of the report say, one below the other. -/
def texts (r : Report) : List String :=
  titleTexts ++ r.resources.flatMap ResourceReport.texts ++ r.summary.texts

end Report

namespace Command

/-! ## Lines -/

/-- What a line says, whatever its style. -/
def Line.text (l : Line) : String := String.join (l.map Piece.text)

@[simp] theorem Piece.render_false : Piece.render false = Piece.text := rfl

theorem Line.render_false : Line.render false = fun l => l.text ++ "\n" := by
  funext l
  rw [Line.render, Piece.render_false, Line.text]

/-- Without colour, what is printed is what the lines say. -/
theorem renderLines_false (ls : List Line) :
    renderLines false ls = String.join ((ls.map Line.text).map (· ++ "\n")) := by
  rw [renderLines, Line.render_false, List.map_map]
  rfl

/-- A line that is all plain is the same in colour. -/
theorem Line.render_plain (isColoured : Bool) (text : String) :
    Line.render isColoured [.plain text] = text ++ "\n" := by
  simp [Line.render, Piece.render, Piece.plain]

@[simp] theorem text_plain (text : String) : Line.text [.plain text] = text := by
  simp [Line.text, Piece.plain]

/-! ## Lines of a report -/

/-- The table of a column is in parentheses, if it is told. -/
theorem text_originLine (e : OriginEntry) :
    e.line.text = "    " ++ e.column ++ " -> " ++ e.origin ++
      e.table.elim "" fun table => " (" ++ table ++ ")" := by
  obtain ⟨column, origin, table⟩ := e
  cases table <;> exact text_plain _

theorem render_originLine (isColoured : Bool) (e : OriginEntry) :
    e.line.render isColoured = e.line.text ++ "\n" := by
  rw [OriginEntry.line, Line.render_plain, text_plain]

theorem texts_aliasLines (r : ResourceReport) : (aliasLines r).map Line.text = r.aliasTexts := by
  rw [aliasLines, ResourceReport.aliasTexts]
  split
  · rfl
  · rw [List.map_cons, List.map_map]
    rfl

/-- The table is told where the origin is an alias of another name. -/
theorem note_originEntry (r : ResourceReport) (origin : String) :
    (((r.aliases[origin]?).filter (· ≠ origin)).elim "" fun table => " (" ++ table ++ ")") =
      r.tableNote origin := by
  rw [ResourceReport.tableNote]
  cases r.aliases[origin]? with
  | none => rfl
  | some table => by_cases same : table = origin <;> simp [Option.filter_some, same]

theorem texts_originEntries (r : ResourceReport) :
    (originEntries r).map (fun e => e.line.text) =
      r.origins.toList.map fun (column, origin) =>
        "    " ++ column ++ " -> " ++ origin ++ r.tableNote origin := by
  rw [originEntries, List.map_map]
  refine List.map_congr_left fun (column, origin) _ => ?_
  rw [Function.comp_apply, text_originLine, note_originEntry]

theorem texts_originLines (r : ResourceReport) : (originLines r).map Line.text = r.originTexts := by
  rw [originLines, ResourceReport.originTexts]
  split
  · rfl
  · rw [List.map_cons, List.map_map, ← texts_originEntries]
    rfl

theorem text_severityPiece (s : Severity) : (severityPiece s).text = s.label := by
  cases s <;> rfl

theorem text_diagnosticLine (d : Diagnostic) :
    (diagnosticLine d).text =
      "  [" ++ d.severity.label ++ "] " ++ d.code.text ++ ": " ++ d.message := by
  simp [diagnosticLine, Line.text, text_severityPiece, Piece.plain, String.append_assoc]

theorem text_resourceHeading (r : ResourceReport) :
    Line.text [.bold "Resource:", .plain " ", .coloured .green r.name,
      .plain (" (default table: " ++ r.defaultTable ++ ")")] =
      "Resource: " ++ r.name ++ " (default table: " ++ r.defaultTable ++ ")" := by
  have spaced : "Resource: " = "Resource:" ++ " " := rfl
  rw [spaced]
  simp only [Line.text, Piece.plain, Piece.bold, Piece.coloured, List.map_cons, List.map_nil,
    String.join_cons, String.join_nil, String.append_empty, String.append_assoc]

theorem texts_resourceLines (r : ResourceReport) : (resourceLines r).map Line.text = r.texts := by
  have diagnostics : (r.diagnostics.map diagnosticLine).map Line.text = r.diagnosticTexts := by
    rw [List.map_map]
    exact List.map_congr_left fun d _ => text_diagnosticLine d
  rw [resourceLines, ResourceReport.texts, List.map_append, List.map_append, List.map_append,
    texts_aliasLines, texts_originLines, diagnostics, List.map_cons, List.map_singleton,
    text_resourceHeading]
  rfl

theorem text_countPiece {other : String → Piece} (kept : ∀ text, (other text).text = text)
    (n : Nat) : (countPiece other n).text = toString n := by
  rw [countPiece]
  split
  · rfl
  · exact kept _

theorem texts_summaryLines (s : ReportSummary) : (summaryLines s).map Line.text = s.texts := by
  have errors : (countPiece (.boldColoured .red) s.errors).text = toString s.errors :=
    text_countPiece (fun _ => rfl) _
  have warnings : (countPiece (.coloured .yellow) s.warnings).text = toString s.warnings :=
    text_countPiece (fun _ => rfl) _
  simp only [summaryLines, ReportSummary.texts, List.map_cons, List.map_nil, text_plain]
  simp only [Line.text, errors, warnings, List.map_cons, List.map_nil, String.join_cons,
    String.join_nil, String.append_empty]
  rfl

theorem texts_reportLines (r : Report) : (reportLines r).map Line.text = r.texts := by
  have entries : (r.resources.flatMap resourceLines).map Line.text =
      r.resources.flatMap ResourceReport.texts := by
    rw [List.map_flatMap]
    simp only [texts_resourceLines]
  rw [reportLines, Report.texts, List.map_append, List.map_append, entries, texts_summaryLines]
  rfl

/-! ## JSON -/

/-- The line break behind the text is no part of it. -/
theorem parse?_json (isColoured : Bool) (r : Report) :
    Json.parse? (renderLines isColoured (formattedReport r .json)) = some r.encode := by
  have text : renderLines isColoured (formattedReport r .json) =
      Json.print .pretty r.encode ++ String.ofList ['\n'] := by
    simp [renderLines, formattedReport, Line.render_plain, Report.toJson]
  rw [text]
  exact Json.parse?_print_append .pretty r.inOnePlace_encode (List.forall_mem_singleton.mpr rfl)

theorem ofJson?_json_iff (isColoured : Bool) (r : Report) :
    Report.ofJson? (renderLines isColoured (formattedReport r .json)) = some r ↔ r.Fits := by
  rw [Report.ofJson?, parse?_json, Option.bind_some]
  exact r.decoder_encode_iff

/-! ## Either format -/

/-- What is printed shows the report. As text it has a line for each of the report's texts, in their
order, that says just this text in some style. As JSON it stands for a record with the entries in
their order, and it is read back as the report if the numbers fit. -/
def Shows (report : Report) (isColoured : Bool) (printed : String) : OutputFormat → Prop
  | .text => ∃ lines : List Line,
      printed = renderLines isColoured lines ∧ lines.map Line.text = report.texts
  | .json =>
      Json.parse? printed = some (.record [
        ("version", report.version.encode),
        ("dialect", report.database.encode),
        ("summary", report.summary.encode),
        ("resources", .list (report.resources.map ResourceReport.encode))]) ∧
      (Report.ofJson? printed = some report ↔ report.Fits)

theorem shows_formattedReport (report : Report) (isColoured : Bool) (format : OutputFormat) :
    Shows report isColoured (renderLines isColoured (formattedReport report format)) format := by
  cases format with
  | text => exact ⟨reportLines report, rfl, texts_reportLines report⟩
  | json => exact ⟨parse?_json isColoured report, ofJson?_json_iff isColoured report⟩

/-- Without colour, what is printed as text is the report's texts and nothing else. -/
theorem Shows.printed_eq {report : Report} {printed : String}
    (shown : Shows report false printed .text) :
    printed = String.join (report.texts.map (· ++ "\n")) := by
  obtain ⟨lines, rfl, texts⟩ := shown
  rw [renderLines_false, texts]

end Command

end ColumnOrigin
