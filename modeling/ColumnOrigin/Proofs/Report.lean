import ColumnOrigin.Report

/-!
# Summaries of reports

A report is built entry by entry, and its summary is counted on the way. It is always the summary of
the entries that the report lists (`IsTallied`), so it adds up over them.
-/

namespace ColumnOrigin

namespace ReportSummary

instance : Zero ReportSummary := ⟨empty⟩

/-- Summaries add up field by field. -/
instance : Add ReportSummary where
  add s t := {
    total := s.total + t.total
    errors := s.errors + t.errors
    warnings := s.warnings + t.warnings
    info := s.info + t.info
    resources := s.resources + t.resources }

theorem add_def (s t : ReportSummary) :
    s + t = ⟨s.total + t.total, s.errors + t.errors, s.warnings + t.warnings, s.info + t.info,
      s.resources + t.resources⟩ :=
  rfl

/-- How many of the diagnostics have a severity. -/
def number (severity : Severity) (diagnostics : List Diagnostic) : Nat :=
  diagnostics.countP (·.severity = severity)

theorem length_eq_numbers (diagnostics : List Diagnostic) :
    diagnostics.length =
      number .error diagnostics + number .warn diagnostics + number .info diagnostics := by
  induction diagnostics with
  | nil => rfl
  | cons d rest ih =>
    simp only [number, List.length_cons, List.countP_cons] at ih ⊢
    cases d.severity <;> simp only [reduceCtorEq, decide_true, decide_false, Bool.false_eq_true,
      ↓reduceIte] <;> omega

theorem foldl_count (s : ReportSummary) (diagnostics : List Diagnostic) :
    diagnostics.foldl count s = s + {
      total := diagnostics.length
      errors := number .error diagnostics
      warnings := number .warn diagnostics
      info := number .info diagnostics
      resources := 0 } := by
  induction diagnostics generalizing s with
  | nil => rfl
  | cons d rest ih =>
    rw [List.foldl_cons, ih]
    simp only [count, number, List.length_cons, List.countP_cons]
    cases d.severity <;> simp [add_def] <;> omega

/-- The summary of some entries. -/
def ofEntries (entries : List ResourceReport) : ReportSummary :=
  let listed := entries.flatMap (·.diagnostics)
  { total := listed.length
    errors := number .error listed
    warnings := number .warn listed
    info := number .info listed
    resources := entries.length }

theorem ofEntries_append (entries more : List ResourceReport) :
    ofEntries (entries ++ more) = ofEntries entries + ofEntries more := by
  simp only [ofEntries, number, List.flatMap_append, List.length_append, List.countP_append,
    add_def]

theorem ofEntries_map {α : Type} (entry : α → ResourceReport) (items : List α) :
    ofEntries (items.map entry) = (items.map fun item => ofEntries [entry item]).sum := by
  induction items with
  | nil => rfl
  | cons item rest ih =>
    rw [List.map_cons, List.map_cons, List.sum_cons, ← ih]
    exact ofEntries_append [entry item] (rest.map entry)

end ReportSummary

namespace Report

/-- All diagnostics that the report lists. -/
def listed (r : Report) : List Diagnostic := r.resources.flatMap (·.diagnostics)

/-- The summary is that of the entries. -/
def IsTallied (r : Report) : Prop := r.summary = .ofEntries r.resources

theorem isTallied_empty (database : Database) : (empty database).IsTallied := rfl

theorem IsTallied.add {r : Report} (tallied : r.IsTallied) (entry : ResourceReport) :
    (r.add entry).IsTallied := by
  rw [IsTallied, Report.add, ReportSummary.ofEntries_append, ← tallied,
    ReportSummary.foldl_count]
  simp [ReportSummary.add_def, ReportSummary.ofEntries]

theorem IsTallied.foldl_add {r : Report} (tallied : r.IsTallied) (entries : List ResourceReport) :
    (entries.foldl Report.add r).IsTallied := by
  induction entries generalizing r with
  | nil => exact tallied
  | cons entry rest ih => exact ih (tallied.add entry)

theorem resources_foldl_add (r : Report) (entries : List ResourceReport) :
    (entries.foldl Report.add r).resources = r.resources ++ entries := by
  induction entries generalizing r with
  | nil => exact (List.append_nil _).symm
  | cons entry rest ih =>
    rw [List.foldl_cons, ih, Report.add, List.append_assoc, List.singleton_append]

theorem IsTallied.total {r : Report} (tallied : r.IsTallied) :
    r.summary.total = r.summary.errors + r.summary.warnings + r.summary.info ∧
      r.summary.total = r.listed.length ∧ r.summary.resources = r.resources.length := by
  rw [tallied]
  exact ⟨ReportSummary.length_eq_numbers _, rfl, rfl⟩

theorem IsTallied.hasErrors_iff {r : Report} (tallied : r.IsTallied) :
    r.hasErrors = true ↔ ∃ d ∈ r.listed, d.severity = .error := by
  have errors : r.summary.errors = ReportSummary.number .error r.listed :=
    congrArg ReportSummary.errors tallied
  rw [hasErrors, errors, decide_eq_true_eq, ReportSummary.number, List.countP_pos_iff]
  simp only [decide_eq_true_eq]

end Report

end ColumnOrigin
