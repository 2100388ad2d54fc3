import ColumnOrigin.Proofs.Command.Printed
import ColumnOrigin.Proofs.Command.Runs
import ColumnOrigin.Proofs.Report

/-!
# Reports on one resource and on all

The report on all resources is put together from the reports on each (`resolve_by_resource`), and a
run that prints a report ends with the code 1 exactly when it lists an error (`Answers`).
-/

namespace ColumnOrigin.Command
variable {c : Config}

/-! ## Reports -/

theorem reportOnAll_eq (c : Config) (rs : List Resource) :
    reportOnAll c rs = (rs.map (reportOn c)).foldl Report.add (.empty c.database) := by
  rw [List.foldl_map, reportOnAll]

theorem isTallied_reportOnAll (c : Config) (rs : List Resource) :
    (reportOnAll c rs).IsTallied := by
  rw [reportOnAll_eq]
  exact (Report.isTallied_empty c.database).foldl_add _

theorem resources_reportOnAll (c : Config) (rs : List Resource) :
    (reportOnAll c rs).resources = rs.map (reportOn c) := by
  rw [reportOnAll_eq]
  exact Report.resources_foldl_add _ _

/-- The summary of the report on some resources is the sum of those on each of them. -/
theorem summary_reportOnAll (c : Config) (rs : List Resource) :
    (reportOnAll c rs).summary = (rs.map fun r => (reportOnAll c [r]).summary).sum := by
  have each (rs : List Resource) :
      (reportOnAll c rs).summary = .ofEntries (rs.map (reportOn c)) := by
    rw [← resources_reportOnAll]
    exact isTallied_reportOnAll c rs
  simp only [each]
  exact ReportSummary.ofEntries_map (reportOn c) rs

/-- The text of the report on some resources has the lines of each of them, in their order. -/
theorem texts_reportOnAll (c : Config) (rs : List Resource) :
    (reportOnAll c rs).texts = Report.titleTexts ++ rs.flatMap (fun r => (reportOn c r).texts) ++
      (reportOnAll c rs).summary.texts := by
  rw [Report.texts, resources_reportOnAll, List.flatMap_map]

/-- The severity that counts is the one that is configured for the code, if there is one. -/
theorem diagnostics_reportOn (c : Config) (r : Resource) :
    (reportOn c r).diagnostics =
      (Resolver.ofResource (.ofDatabase c.database) r).diagnostics.map fun d =>
        { d with severity := (c.severities.overrides[d.code.text]?).getD d.severity } := by
  rw [reportOn, Resolver.report]
  refine List.map_congr_left fun d _ => ?_
  rw [SeverityOverrides.apply, SeverityOverrides.severity,
    Std.ExtTreeMap.getD_eq_getD_getElem?]

theorem name_reportOn (c : Config) (r : Resource) : (reportOn c r).name = r.name := by
  change (Resolver.ofResource (.ofDatabase c.database) r).resource = r.name
  rw [Resolver.ofResource]
  split <;> rfl

/-! ## Runs that print one -/

/-- Whoever asks for `requested` under the configuration gets the report, in either format, and the
code 1 or 0 as it lists an error or none. What is printed shows the report. It makes no difference
whether the report is to be written to a file, as long as it can be. -/
def Answers (c : Config) (requested : Option String) (report : Report) : Prop :=
  ∀ {σ : Type} (x : Start σ) (format : OutputFormat) (output : Option String) (s : σ),
    x.Reaches c (.resolve requested format output) s →
    (∀ path ∈ output, ((x.files.write path report.toJson).run s).1 = .ok ()) →
    x.output.out = renderLines x.isColoured (formattedReport report format) ∧
    Shows report x.isColoured x.output.out format ∧
    x.output.exitCode = if ∃ d ∈ report.listed, d.severity = .error then 1 else 0

theorem saveReport_of_writes {σ : Type} {files : Files (StateM σ)} {report : Report}
    {output : Option String} {s : σ}
    (writes : ∀ path ∈ output, ((files.write path report.toJson).run s).1 = .ok ()) :
    ∃ lines, ((saveReport files report output).run s).1 = .ok lines := by
  cases output with
  | none => exact ⟨[], rfl⟩
  | some path =>
    refine ⟨[savedLine path], ?_⟩
    change (((files.write path report.toJson).run s).1.map fun _ => [savedLine path]) = _
    rw [writes path rfl]
    rfl

theorem perform_resolve {σ : Type} {files : Files (StateM σ)} {requested : Option String}
    {report : Report} {output : Option String} {s : σ}
    (asked : requestedReport c requested = .ok report)
    (writes : ∀ path ∈ output, ((files.write path report.toJson).run s).1 = .ok ())
    (err : List Line) (format : OutputFormat) :
    ∃ err', ((perform files c err (.resolve requested format output)).run s).1 =
      ⟨!report.hasErrors, formattedReport report format, err'⟩ := by
  obtain ⟨saved, done⟩ := saveReport_of_writes writes
  refine ⟨err ++ saved, ?_⟩
  simp only [perform, asked]
  rw [run_bind_state, done]
  rfl

theorem answers_of_requestedReport {requested : Option String} {report : Report}
    (asked : requestedReport c requested = .ok report) (tallied : report.IsTallied) :
    Answers c requested report := by
  intro σ x format output s reaches writes
  obtain ⟨err, performed⟩ := perform_resolve asked writes (x.preface c) format
  rw [reaches.output_eq, performed, Outcome.output]
  refine ⟨rfl, shows_formattedReport report x.isColoured format, ?_⟩
  -- The run looks at the counted errors, the statement at the listed ones.
  simp only [← tallied.hasErrors_iff]
  cases report.hasErrors <;> rfl

theorem answers_of_resource {name : String} {r : Resource} (found : c.resource? name = some r) :
    Answers c (some name) (reportOnAll c [r]) := by
  refine answers_of_requestedReport ?_ (isTallied_reportOnAll c _)
  rw [requestedReport, findResource, found]
  rfl

/-- **Resources are independent.** Each configuration that loads can be asked about one of its
resources or about all. Asked about all, it answers with a report whose entries are, in the order of
the resources, the single entries of the reports on each of them, and so the text has the lines of
each entry as the text on that resource alone has them. Its summary is the sum of theirs, and each
summary counts what its report lists. The severities are those that are configured for the codes,
and the built-in ones elsewhere. -/
theorem resolve_by_resource (loads : Loads c) :
    let whole := reportOnAll c c.resources
    let single (r : Resource) := reportOnAll c [r]
    (∀ requested format, ∃ x : Start Unit, x.Reaches c (.resolve requested format none) ()) ∧
    Answers c none whole ∧
    (∀ r ∈ c.resources, Answers c (some r.name) (single r)) ∧
    whole.resources.length = c.resources.length ∧
    (∀ (i : Nat) (r : Resource), c.resources[i]? = some r → ∃ entry,
      whole.resources[i]? = some entry ∧ (single r).resources = [entry] ∧ entry.name = r.name ∧
      entry.diagnostics =
        (Resolver.ofResource (.ofDatabase c.database) r).diagnostics.map fun d =>
          { d with severity := (c.severities.overrides[d.code.text]?).getD d.severity }) ∧
    whole.texts = Report.titleTexts ++ c.resources.flatMap (fun r => (reportOn c r).texts) ++
      whole.summary.texts ∧
    (∀ r, (single r).texts = Report.titleTexts ++ (reportOn c r).texts ++
      (single r).summary.texts) ∧
    whole.summary = (c.resources.map fun r => (single r).summary).sum ∧
    ∀ report ∈ whole :: c.resources.map single,
      report.summary.total =
        report.summary.errors + report.summary.warnings + report.summary.info ∧
      report.summary.total = report.listed.length ∧
      report.summary.resources = report.resources.length := by
  intro whole single
  have entries (rs : List Resource) : (reportOnAll c rs).resources = rs.map (reportOn c) :=
    resources_reportOnAll c rs
  refine ⟨loads.exists_start, ?_, ?_, ?_, ?_, texts_reportOnAll c c.resources, ?_,
    summary_reportOnAll c c.resources, ?_⟩
  · exact answers_of_requestedReport rfl (isTallied_reportOnAll c _)
  · intro r hr
    exact answers_of_resource (Config.resource?_name loads.validate hr)
  · rw [entries, List.length_map]
  · intro i r hr
    refine ⟨reportOn c r, ?_, entries [r], name_reportOn c r, diagnostics_reportOn c r⟩
    rw [entries, List.getElem?_map, hr, Option.map_some]
  · intro r
    rw [texts_reportOnAll, List.flatMap_singleton]
  · intro report member
    have tallied : report.IsTallied := by
      obtain rfl | member := List.mem_cons.mp member
      · exact isTallied_reportOnAll c _
      · obtain ⟨r, -, rfl⟩ := List.mem_map.mp member
        exact isTallied_reportOnAll c _
    exact tallied.total

/-! Two resources. The first refers to a table that is not in its query, and that is an error
here. -/

def filmsOnly : Resource := ⟨"films", "SELECT f.id FROM film", "film", none⟩

def actorsOnly : Resource := ⟨"actors", "SELECT a.* FROM actor a", "actor", none⟩

def lending : Config where
  database := .ansi
  severities := ⟨.ofEntries [("SQL_DANGLING_CORRELATION", .error)]⟩
  resources := [filmsOnly, actorsOnly]

def lendingText : String :=
  "severity.overrides.SQL_DANGLING_CORRELATION = \"error\"\n" ++
  "[[resources]]\nname = \"films\"\nquery = \"SELECT f.id FROM film\"\ntable = \"film\"\n" ++
  "[[resources]]\nname = \"actors\"\nquery = \"SELECT a.* FROM actor a\"\ntable = \"actor\"\n"

theorem configIn_lending : configIn (some lendingText.toUTF8) = .ok lending :=
  (Config.ofFile_toUTF8 lendingText).trans (Config.ofToml_of_parts (by decide +kernel))

/-- The program is called next to that configuration. -/
abbrev besideLending (arguments : List String) : Start Unit :=
  beside (some lendingText.toUTF8) arguments

def lendingTexts : List String := Report.titleTexts ++ [
  "",
  "Resource: films (default table: film)",
  "  Aliases:",
  "    FILM -> FILM",
  "  Column origins:",
  "    ID -> F",
  "  [ERROR] SQL_DANGLING_CORRELATION: " ++
    "Qualifier 'F' is not declared in the FROM clause; used as a table name",
  "",
  "Resource: actors (default table: actor)",
  "  Aliases:",
  "    A -> ACTOR",
  "  [WARN] SQL_UNSUPPORTED_SYNTAX: " ++
    "Wildcard 'a.*' is not expanded; its columns resolve to the default table",
  "",
  "Summary:",
  "  Resources: 2",
  "  Errors:   1",
  "  Warnings: 1",
  "  Info:     0",
  Report.ruleText]

/-- The films are in error, alone and with the actors; the actors alone are fine. All are printed in
their order, and the films alone are read back from JSON. -/
theorem resolve_by_resource_lending :
    Loads lending ∧ (besideLending ["resolve"]).output.exitCode = 1 ∧
      (besideLending ["resolve", "films", "--format", "json"]).output.exitCode = 1 ∧
      (besideLending ["resolve", "actors", "--output", "report.json"]).output.exitCode = 0 ∧
      (besideLending ["resolve"]).output.out = String.join (lendingTexts.map (· ++ "\n")) ∧
      Report.ofJson? (besideLending ["resolve", "films", "--format", "json"]).output.out =
        some (reportOnAll lending [filmsOnly]) := by
  have reaches (arguments : List String) (task : Task)
      (asked : Invocation.ofArguments none arguments = .ok ⟨none, false, task⟩) :
      (besideLending arguments).Reaches lending task () :=
    reaches_beside configIn_lending asked
  have all := reaches ["resolve"] (.resolve none .text none) rfl
  have films := reaches ["resolve", "films", "--format", "json"]
    (.resolve (some "films") .json none) rfl
  have actors := reaches ["resolve", "actors", "--output", "report.json"]
    (.resolve (some "actors") .text (some "report.json")) rfl
  have loads : Loads lending := ⟨Unit, _, _, (), all⟩
  obtain ⟨-, whole, each, -⟩ := resolve_by_resource loads
  obtain ⟨-, shownAll, exitAll⟩ := whole _ _ _ _ all (by simp)
  obtain ⟨-, shownFilms, exitFilms⟩ := each filmsOnly (by simp [lending]) _ _ _ _ films (by simp)
  obtain ⟨-, -, exitActors⟩ :=
    each actorsOnly (by simp [lending]) _ _ _ _ actors fun _ _ => rfl
  have entries : (∃ d ∈ (reportOnAll lending lending.resources).listed, d.severity = .error) ∧
      (∃ d ∈ (reportOnAll lending [filmsOnly]).listed, d.severity = .error) ∧
      (¬ ∃ d ∈ (reportOnAll lending [actorsOnly]).listed, d.severity = .error) ∧
      (reportOnAll lending lending.resources).texts = lendingTexts ∧
      (reportOnAll lending [filmsOnly]).summary = ⟨1, 1, 0, 0, 1⟩ := by
    decide +kernel
  obtain ⟨error, errorFilms, noError, texts, summary⟩ := entries
  have version : (reportOnAll lending [filmsOnly]).version = .current := rfl
  rw [if_pos error] at exitAll
  rw [if_pos errorFilms] at exitFilms
  rw [if_neg noError] at exitActors
  refine ⟨loads, exitAll, exitFilms, exitActors, ?_, shownFilms.2.mpr ?_⟩
  · rw [isColoured_beside] at shownAll
    rw [shownAll.printed_eq, texts]
  · simp [Report.Fits, ReportVersion.Fits, ReportSummary.Fits, version, summary,
      ReportVersion.current]

end ColumnOrigin.Command
