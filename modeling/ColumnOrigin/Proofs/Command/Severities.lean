import ColumnOrigin.Proofs.Command.Columns

/-!
# Severities beside columns and in the report

A configuration sets severities for codes. The report on a resource has them, but the diagnostics
that are printed beside single columns have those that are built in, so that the two agree only
where the configuration sets nothing else (`severities_agree_iff`).
-/

namespace ColumnOrigin

theorem Severity.text_inj {s t : Severity} : s.text = t.text ↔ s = t := by
  cases s <;> cases t <;> decide

/-- What a reader is told of a diagnostic, whichever command is run. -/
def Diagnostic.outline (d : Diagnostic) : Severity × DiagnosticCode × String :=
  (d.severity, d.code, d.message)

namespace SeverityOverrides
variable {s : SeverityOverrides} {d : Diagnostic}

/-- The severity that is configured for the code, if there is one, is that of the diagnostic. -/
def Confirms (s : SeverityOverrides) (d : Diagnostic) : Prop :=
  ∀ configured, s.overrides[d.code.text]? = some configured → configured = d.severity

theorem severity_apply_eq_iff : (s.apply d).severity = d.severity ↔ s.Confirms d := by
  rw [apply, severity, Std.ExtTreeMap.getD_eq_getD_getElem?, Confirms]
  cases s.overrides[d.code.text]? <;> simp

theorem outline_apply_eq_iff : (s.apply d).outline = d.outline ↔ s.Confirms d := by
  rw [← severity_apply_eq_iff]
  simp only [Diagnostic.outline, apply, Prod.mk.injEq, and_true]

/-- The line of a diagnostic begins with its severity, and nothing else of it changes. -/
theorem text_apply_eq_iff : (s.apply d).text = d.text ↔ s.Confirms d := by
  rw [← severity_apply_eq_iff, ← Severity.text_inj]
  simp only [Diagnostic.text, apply, String.append_assoc, String.append_left_inj]

end SeverityOverrides

namespace Command
variable {c : Config} {r : Resource}

theorem listed_reportOnAll (c : Config) (r : Resource) :
    (reportOnAll c [r]).listed =
      (Resolver.ofResource (.ofDatabase c.database) r).diagnostics.map c.severities.apply := by
  rw [Report.listed, resources_reportOnAll, List.map_singleton, List.flatMap_singleton]
  rfl

theorem noticeLine_apply_eq_iff {s : SeverityOverrides} {d : Diagnostic} :
    noticeLine (s.apply d) = noticeLine d ↔ s.Confirms d := by
  rw [← SeverityOverrides.text_apply_eq_iff]
  simp [noticeLine, Piece.coloured]

/-- **Severities beside columns are built in.** For each resource of a configuration that loads,
both commands can be run. Beside columns, the diagnostics of the analysis are printed as they are;
the report lists the same ones in the same order, with the severities that are configured. So both
tell the same codes and messages. They tell the same severities exactly if the configuration
confirms those of all diagnostics of the resource, and only then the lines are the same. -/
theorem severities_agree_iff (loads : Loads c) (hr : r ∈ c.resources) :
    let told := (Resolver.ofResource (.ofDatabase c.database) r).diagnostics
    let reported := (reportOnAll c [r]).listed
    (∃ x : Start Unit, x.Reaches c (.resolve (some r.name) .text none) ()) ∧
    (∀ column columns, ∃ x : Start Unit, x.Reaches c (.columns r.name (column :: columns)) ()) ∧
    (∃ line, Lists c r.name line (told.map noticeLine)) ∧
    Answers c (some r.name) (reportOnAll c [r]) ∧
    reported = told.map c.severities.apply ∧
    told.map (fun d => (d.code, d.message)) = reported.map (fun d => (d.code, d.message)) ∧
    (told.map Diagnostic.outline = reported.map Diagnostic.outline ↔
      ∀ d ∈ told, c.severities.Confirms d) ∧
    (told.map noticeLine = reported.map noticeLine ↔ ∀ d ∈ told, c.severities.Confirms d) := by
  intro told reported
  have found : c.resource? r.name = some r := Config.resource?_name loads.validate hr
  have configured : reported = told.map c.severities.apply := listed_reportOnAll c r
  refine ⟨loads.exists_start _ _, loads.exists_columns r.name, ⟨_, lists_of_resource found⟩,
    answers_of_resource found, configured, ?_, ?_, ?_⟩
  · rw [configured, List.map_map]
    rfl
  · rw [configured, List.map_map, List.map_inj_left]
    exact forall₂_congr fun d _ => eq_comm.trans SeverityOverrides.outline_apply_eq_iff
  · rw [configured, List.map_map, List.map_inj_left]
    exact forall₂_congr fun d _ => eq_comm.trans noticeLine_apply_eq_iff

/-- Beside the columns of the films the dangling reference is no error, though it is configured as
one and the report has it so. -/
theorem severities_of_films :
    Loads lending ∧ filmsOnly ∈ lending.resources ∧
    (beside (some lendingText.toUTF8) ["columns", "films", "id"]).output.err =
      some ("info [SQL_DANGLING_CORRELATION] films: " ++
        "Qualifier 'F' is not declared in the FROM clause; used as a table name\n") ∧
    (reportOnAll lending [filmsOnly]).listed.map Diagnostic.severity = [.error] ∧
    (Resolver.ofResource (.ofDatabase lending.database) filmsOnly).diagnostics.map
      Diagnostic.outline ≠ (reportOnAll lending [filmsOnly]).listed.map Diagnostic.outline := by
  have reaches : (beside (some lendingText.toUTF8) ["columns", "films", "id"]).Reaches lending
      (.columns "films" ["id"]) () :=
    reaches_beside configIn_lending rfl
  have loads : Loads lending := ⟨Unit, _, _, (), reaches⟩
  have member : filmsOnly ∈ lending.resources := List.mem_cons_self
  obtain ⟨-, -, ⟨line, lists⟩, -, -, -, agree, -⟩ := severities_agree_iff loads member
  have unconfirmed :
      ∃ d ∈ (Resolver.ofResource (.ofDatabase lending.database) filmsOnly).diagnostics,
        lending.severities.overrides[d.code.text]? = some .error ∧ d.severity = .info := by
    decide +kernel
  refine ⟨loads, member, ?_, by decide +kernel, ?_⟩
  · rw [lists _ ["id"] () reaches]
    dsimp only
    decide +kernel
  · intro same
    obtain ⟨d, raised, configured, builtIn⟩ := unconfirmed
    have confirmed := agree.mp same d raised _ configured
    rw [builtIn] at confirmed
    cases confirmed

end Command
end ColumnOrigin
