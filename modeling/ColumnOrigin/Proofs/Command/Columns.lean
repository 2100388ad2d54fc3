import ColumnOrigin.Proofs.Command.Resolve
import ColumnOrigin.Proofs.Query.Folded

/-!
# Columns as the report shows them

The report on a resource is a snapshot of what the analysis of its query found; single columns are
attributed by the analysis itself. Both say the same of every column (`columns_as_reported`).
-/

namespace ColumnOrigin.Command
variable {c : Config} {r : Resource}

/-! ## Entries of the report -/

section
variable {report : ResourceReport} {e : OriginEntry}

theorem mem_originEntries_iff :
    e ∈ originEntries report ↔ report.origins[e.column]? = some e.origin ∧
      e.table = (report.aliases[e.origin]?).filter (· ≠ e.origin) := by
  obtain ⟨column, origin, table⟩ := e
  rw [originEntries, List.mem_map]
  constructor
  · rintro ⟨⟨column', origin'⟩, member, same⟩
    cases same
    exact ⟨Std.ExtTreeMap.mem_toList_iff_getElem?_eq_some.mp member, rfl⟩
  · rintro ⟨entry, same⟩
    exact ⟨(column, origin), Std.ExtTreeMap.mem_toList_iff_getElem?_eq_some.mpr entry,
      congrArg (OriginEntry.mk column origin) same.symm⟩

theorem exists_originEntry_iff {column origin : String} :
    (∃ e ∈ originEntries report, e.column = column ∧ e.origin = origin) ↔
      report.origins[column]? = some origin := by
  constructor
  · rintro ⟨e, member, rfl, rfl⟩
    exact (mem_originEntries_iff.mp member).1
  · intro entry
    let e : OriginEntry := ⟨column, origin, (report.aliases[origin]?).filter (· ≠ origin)⟩
    exact ⟨e, mem_originEntries_iff.mpr ⟨entry, rfl⟩, rfl, rfl⟩

/-- An alias of its own name is not shown, and then the origin is the table itself. -/
theorem shown_of_mem (member : e ∈ originEntries report) :
    e.shown = report.aliases[e.origin]?.getD e.origin := by
  rw [OriginEntry.shown, (mem_originEntries_iff.mp member).2]
  cases report.aliases[e.origin]? with
  | none => rfl
  | some table => by_cases same : table = e.origin <;> simp [Option.filter_some, same]

theorem table_eq_some_iff (member : e ∈ originEntries report) (table : String) :
    e.table = some table ↔ report.aliases[e.origin]? = some table ∧ table ≠ e.origin := by
  rw [(mem_originEntries_iff.mp member).2, Option.filter_eq_some_iff, decide_eq_true_iff]

theorem isEmpty_origins_eq_false (present : report.origins ≠ ∅) : report.origins.isEmpty = false := by
  rwa [← Bool.not_eq_true, Std.ExtTreeMap.isEmpty_iff]

/-- In the text of a report on one resource, the columns stand below their heading. -/
theorem exists_texts_eq {whole : Report} (only : whole.resources = [report])
    (present : report.origins ≠ ∅) : ∃ before after, whole.texts =
      before ++ ("  Column origins:" :: (originEntries report).map fun e => e.line.text) ++
        after := by
  have columns : report.originTexts =
      "  Column origins:" :: (originEntries report).map fun e => e.line.text := by
    rw [ResourceReport.originTexts, isEmpty_origins_eq_false present, texts_originEntries]
    rfl
  refine ⟨Report.titleTexts ++ (report.headTexts ++ report.aliasTexts),
    report.diagnosticTexts ++ whole.summary.texts, ?_⟩
  rw [Report.texts, only, List.flatMap_singleton, ResourceReport.texts, columns]
  simp only [List.append_assoc]

theorem line_mem_reportLines {whole : Report} (listed : report ∈ whole.resources)
    (member : e ∈ originEntries report) : e.line ∈ reportLines whole := by
  have present : report.origins ≠ ∅ := by
    intro empty
    simpa [empty] using (mem_originEntries_iff.mp member).1
  have inResource : e.line ∈ resourceLines report := by
    simp only [resourceLines, originLines, isEmpty_origins_eq_false present, List.mem_append]
    exact .inl (.inr (List.mem_cons_of_mem _ (List.mem_map_of_mem member)))
  simp only [reportLines, List.mem_append, List.mem_flatMap]
  exact .inl (.inr ⟨report, listed, inResource⟩)

end

/-! ## Single columns -/

section
variable {dialect : Dialect} {column origin : String}

theorem ofColumn_of_origin
    (entry : (Resolver.ofResource dialect r).origins[dialect.fold column]? = some origin) :
    ColumnEntry.ofColumn dialect r (.ofResource dialect r) column =
      ⟨column, dialect.qualifiedTableName r.database
        ((Resolver.ofResource dialect r).aliases[origin]?.getD origin), false⟩ := by
  have known : (Resolver.ofResource dialect r).origins.contains (dialect.fold column) = true := by
    rw [Std.ExtTreeMap.contains_eq_isSome_getElem?, entry]
    rfl
  have table : (Resolver.ofResource dialect r).tableOf column =
      (Resolver.ofResource dialect r).aliases[origin]?.getD origin :=
    Resolver.tableOf_of_origin (by rwa [Resolver.folding_ofResource])
  -- It is known, so it is not marked, whatever its table is.
  simp only [ColumnEntry.ofColumn, table, known, Bool.not_true, Bool.and_false]

theorem ofColumn_of_no_origin
    (unqualified : (Resolver.ofResource dialect r).origins[dialect.fold column]? = none) :
    ColumnEntry.ofColumn dialect r (.ofResource dialect r) column =
      ⟨column, dialect.qualifiedTableName r.database r.table, true⟩ := by
  have unknown :
      (Resolver.ofResource dialect r).origins.contains (dialect.fold column) = false := by
    rw [Std.ExtTreeMap.contains_eq_isSome_getElem?, unqualified]
    rfl
  simp only [ColumnEntry.ofColumn, Resolver.tableOf_of_no_origin unqualified,
    Resolver.defaultTable_ofResource, unknown, decide_true, Bool.not_false, Bool.and_true]

end

/-- The line of a column that belongs to the table. -/
def columnLine (c : Config) (r : Resource) (column table : String) : Line :=
  [.bold column, .plain " -> ",
    .coloured .green ((Dialect.ofDatabase c.database).qualifiedTableName r.database table)]

section
variable {e : OriginEntry} {column : String}

/-- The names in the report are folded. -/
theorem fold_column_of_mem (member : e ∈ originEntries (reportOn c r)) :
    (Dialect.ofDatabase c.database).fold e.column = e.column := by
  have entry := (mem_originEntries_iff.mp member).1
  have folded := ((Resolver.isFolded_ofResource (.ofDatabase c.database) r).origins _ _ entry).1
  rwa [Resolver.folding_ofResource] at folded

theorem line_of_mem (member : e ∈ originEntries (reportOn c r))
    (named : e.column = (Dialect.ofDatabase c.database).fold column) :
    (ColumnEntry.ofColumn (.ofDatabase c.database) r (.ofResource (.ofDatabase c.database) r)
      column).line = columnLine c r column (e.table.getD e.origin) := by
  have entry : (Resolver.ofResource (.ofDatabase c.database) r).origins[
      (Dialect.ofDatabase c.database).fold column]? = some e.origin :=
    named ▸ (mem_originEntries_iff.mp member).1
  have table : e.table.getD e.origin =
      (Resolver.ofResource (.ofDatabase c.database) r).aliases[e.origin]?.getD e.origin :=
    shown_of_mem member
  rw [ofColumn_of_origin entry, table]
  rfl

theorem line_of_not_mem
    (unknown : (Dialect.ofDatabase c.database).fold column ∉ (reportOn c r).origins) :
    (ColumnEntry.ofColumn (.ofDatabase c.database) r (.ofResource (.ofDatabase c.database) r)
      column).line =
        columnLine c r column (reportOn c r).defaultTable ++ [.dimmed " (default)"] := by
  have unqualified : (Resolver.ofResource (.ofDatabase c.database) r).origins[
      (Dialect.ofDatabase c.database).fold column]? = none :=
    Std.ExtTreeMap.getElem?_eq_none unknown
  have default : (reportOn c r).defaultTable = r.table := Resolver.defaultTable_ofResource _ r
  rw [ofColumn_of_no_origin unqualified, default]
  rfl

end

/-! ## Runs that attribute them -/

/-- Whoever asks for columns of the resource under the configuration gets one line for each of them,
in their order, the notices behind what is said about the configuration, and the code 0. -/
def Lists (c : Config) (resource : String) (line : String → Line) (notices : List Line) : Prop :=
  ∀ {σ : Type} (x : Start σ) (columns : List String) (s : σ),
    x.Reaches c (.columns resource columns) s →
    x.output = ⟨0, renderLines x.isColoured (columns.map line),
      some (renderLines x.isColoured (x.preface c ++ notices))⟩

theorem lists_of_resource {name : String} (found : c.resource? name = some r) :
    let dialect := Dialect.ofDatabase c.database
    let resolver := Resolver.ofResource dialect r
    Lists c name (fun column => (ColumnEntry.ofColumn dialect r resolver column).line)
      (resolver.diagnostics.map noticeLine) := by
  intro dialect resolver σ x columns s reaches
  rw [reaches.output_eq]
  simp only [perform, attributeColumns, findResource, found, Except.map, Outcome.output]
  rw [List.map_map]
  rfl

/-- **Columns are attributed as the report shows them.** For each resource of a configuration that
loads, both commands can be run, and the report of the one decides what the other prints. The text
of the report has a line for each entry, with the column, its origin and, if the origin is an alias
of another name, the table in parentheses; they stand in order below one heading. Where the folded
name of a column has an entry in the report, its line has the table that the text shows there, in
parentheses or else the origin itself, qualified for the database, and it is not marked, even if
that is the default table. Any other column has the qualified default table and the mark. A name
that is taken from an entry of the report is its own folded name. -/
theorem columns_as_reported (loads : Loads c) (hr : r ∈ c.resources) :
    let dialect := Dialect.ofDatabase c.database
    let whole := reportOnAll c [r]
    let report := reportOn c r
    let entryText (e : OriginEntry) : String :=
      "    " ++ e.column ++ " -> " ++ e.origin ++ e.table.elim "" fun table => " (" ++ table ++ ")"
    (∃ x : Start Unit, x.Reaches c (.resolve (some r.name) .text none) ()) ∧
    (∀ column columns, ∃ x : Start Unit, x.Reaches c (.columns r.name (column :: columns)) ()) ∧
    Answers c (some r.name) whole ∧ whole.resources = [report] ∧
    (∀ e ∈ originEntries report, e.line ∈ reportLines whole) ∧
    (∀ e ∈ originEntries report, ∀ isColoured, e.line.render isColoured = entryText e ++ "\n") ∧
    (∀ e ∈ originEntries report, ∀ table, e.table = some table ↔
      report.aliases[e.origin]? = some table ∧ table ≠ e.origin) ∧
    (report.origins ≠ ∅ → ∃ before after, whole.texts =
      before ++ ("  Column origins:" :: (originEntries report).map entryText) ++ after) ∧
    (∀ column origin : String, report.origins[column]? = some origin ↔
      ∃ e ∈ originEntries report, e.column = column ∧ e.origin = origin) ∧
    ∃ (printed : String → Line) (notices : List Line), Lists c r.name printed notices ∧
      (∀ column, ∀ e ∈ originEntries report, e.column = dialect.fold column →
        printed column = columnLine c r column (e.table.getD e.origin)) ∧
      (∀ column, dialect.fold column ∉ report.origins →
        printed column = columnLine c r column report.defaultTable ++ [.dimmed " (default)"]) ∧
      ∀ e ∈ originEntries report,
        printed e.column = columnLine c r e.column (e.table.getD e.origin) := by
  intro dialect whole report entryText
  have found : c.resource? r.name = some r := Config.resource?_name loads.validate hr
  have listed : whole.resources = [report] := resources_reportOnAll c [r]
  refine ⟨loads.exists_start _ _, loads.exists_columns r.name, answers_of_resource found, listed,
    ?line, ?rendered, ?table, ?below, fun _ _ => exists_originEntry_iff.symm, _, _,
    lists_of_resource found, ?_, ?_, ?_⟩
  case line =>
    intro e member
    exact line_mem_reportLines (listed ▸ List.mem_singleton_self report) member
  case rendered =>
    intro e _ isColoured
    rw [render_originLine, text_originLine]
  case table => exact fun e member => table_eq_some_iff member
  case below =>
    have read : (fun e : OriginEntry => e.line.text) = entryText := funext text_originLine
    exact fun present => read ▸ exists_texts_eq listed present
  · exact fun column e member named => line_of_mem member named
  · exact fun column unknown => line_of_not_mem unknown
  · exact fun e member => line_of_mem member (fold_column_of_mem member).symm

/-! A title from the table that is the default, and a number from nowhere. -/

def titles : Resource := ⟨"titles", "SELECT f.title, 1 AS one FROM film f", "film", some "sakila"⟩

def titled : Config := ⟨.postgres, default, [titles]⟩

def titledText : String :=
  "dialect = \"postgres\"\n[[resources]]\nname = \"titles\"\n" ++
  "query = \"SELECT f.title, 1 AS one FROM film f\"\ntable = \"film\"\ndatabase = \"sakila\"\n"

theorem configIn_titled : configIn (some titledText.toUTF8) = .ok titled :=
  (Config.ofFile_toUTF8 titledText).trans (Config.ofToml_of_parts (by decide +kernel))

def titledTexts : List String := Report.titleTexts ++ [
  "",
  "Resource: titles (default table: film)",
  "  Aliases:",
  "    f -> film",
  "  Column origins:",
  "    title -> f (film)",
  "",
  "Summary:",
  "  Resources: 1",
  "  Errors:   0",
  "  Warnings: 0",
  "  Info:     0",
  Report.ruleText]

def titleEntry : OriginEntry := ⟨"title", "f", some "film"⟩

/-- Both belong to the same table, but only the number does so by default. The report has an entry
for the title, with the table in parentheses in any colour, and none for the number. -/
theorem columns_of_titles :
    Loads titled ∧ titles ∈ titled.resources ∧
    (beside (some titledText.toUTF8) ["resolve", "titles"]).output.out =
      String.join (titledTexts.map (· ++ "\n")) ∧
    titleEntry ∈ originEntries (reportOn titled titles) ∧
    (∀ isColoured, titleEntry.line.render isColoured = "    title -> f (film)\n") ∧
    (beside (some titledText.toUTF8) ["columns", "titles", "Title", "one"]).output.out =
      "Title -> sakila.film\none -> sakila.film (default)\n" := by
  have resolve : (beside (some titledText.toUTF8) ["resolve", "titles"]).Reaches
      titled (.resolve (some "titles") .text none) () :=
    reaches_beside configIn_titled rfl
  have columns : (beside (some titledText.toUTF8) ["columns", "titles", "Title", "one"]).Reaches
      titled (.columns "titles" ["Title", "one"]) () :=
    reaches_beside configIn_titled rfl
  have loads : Loads titled := ⟨Unit, _, _, (), columns⟩
  have member : titles ∈ titled.resources := List.mem_singleton_self titles
  obtain ⟨-, -, answers, -, -, rendered, -, -, -, printed, notices, lists, shown, unknown, -⟩ :=
    columns_as_reported loads member
  have report : (reportOn titled titles).origins["title"]? = some "f" ∧
      (reportOn titled titles).aliases["f"]? = some "film" ∧
      "one" ∉ (reportOn titled titles).origins ∧
      (reportOnAll titled [titles]).texts = titledTexts := by
    decide +kernel
  obtain ⟨origin, table, no_origin, texts⟩ := report
  have entry : titleEntry ∈ originEntries (reportOn titled titles) :=
    mem_originEntries_iff.mpr ⟨origin, by rw [titleEntry, table]; decide⟩
  have title := shown "Title" _ entry (by decide +kernel)
  have one := unknown "one" (by
    have folded : (Dialect.ofDatabase titled.database).fold "one" = "one" := by decide +kernel
    rwa [folded])
  obtain ⟨-, shows_titles, -⟩ := answers _ _ _ _ resolve (by simp)
  rw [isColoured_beside] at shows_titles
  refine ⟨loads, member, ?_, entry, fun isColoured => rendered _ entry isColoured, ?_⟩
  · exact texts ▸ shows_titles.printed_eq
  · rw [lists _ ["Title", "one"] () columns]
    simp only [List.map_cons, List.map_nil, title, one]
    decide +kernel

end ColumnOrigin.Command
