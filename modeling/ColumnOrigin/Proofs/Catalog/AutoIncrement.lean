import ColumnOrigin.Proofs.Catalog.Stamps
import ColumnOrigin.Proofs.Sequence.WholeWord

/-!
# Columns that number themselves

MySQL reports the attribute `auto_increment` beside the default of a column. The text of the default
is looked at for it as well, so a column is taken for a sequence by either text
(`auto_increment_in_either`).
-/

namespace ColumnOrigin

open SequenceStyle (HasWord autoIncrementWord detect_autoIncrement_eq_some_iff)

/-- The text is there and has `auto_increment` as a word. -/
def MentionsAutoIncrement (text : Option String) : Prop :=
  ∃ words, text = some words ∧ HasWord autoIncrementWord words.toList

theorem mentionsAutoIncrement_some_iff (words : String) :
    MentionsAutoIncrement (some words) ↔ HasWord autoIncrementWord words.toList := by
  simp [MentionsAutoIncrement]

namespace CatalogColumn

theorem drawsFrom_mySql_iff (row : CatalogColumn) (sequence : SequenceDefault) :
    row.DrawsFrom .mySql sequence ↔
      sequence = .anonymous ∧
        (MentionsAutoIncrement row.defaultValue ∨ MentionsAutoIncrement row.extra) := by
  have detected (text : String) (found : SequenceDefault) :
      Dialect.mySql.detectSequence text = some found ↔
        found = .anonymous ∧ HasWord autoIncrementWord text.toList :=
    detect_autoIncrement_eq_some_iff text found
  constructor
  · rintro (⟨text, given, found⟩ | ⟨text, -, given, found⟩)
    · obtain ⟨rfl, mentions⟩ := (detected text sequence).mp found
      exact ⟨rfl, .inl ⟨text, given, mentions⟩⟩
    · obtain ⟨rfl, mentions⟩ := (detected text sequence).mp found
      exact ⟨rfl, .inr ⟨text, given, mentions⟩⟩
  · rintro ⟨rfl, ⟨text, given, mentions⟩ | ⟨text, given, mentions⟩⟩
    · exact .byDefault text given ((detected text _).mpr ⟨rfl, mentions⟩)
    · -- The default comes first, so the attribute only counts if the default does not say it.
      by_cases plain : MentionsAutoIncrement row.defaultValue
      · obtain ⟨other, stands, mentions'⟩ := plain
        exact .byDefault other stands ((detected other _).mpr ⟨rfl, mentions'⟩)
      · refine .byExtra text ?_ given ((detected text _).mpr ⟨rfl, mentions⟩)
        intro other stands
        rw [Option.eq_none_iff_forall_ne_some]
        intro found here
        exact plain ⟨other, stands, ((detected other found).mp here).2⟩

end CatalogColumn

namespace Assembly
open Exchange
variable {σ : Type} {adapter : CatalogAdapter (StateM σ)}
variable {resource : Resource} {resolver : Resolver} {drivers : List DriverColumn} {s : σ}

/-- **Either text makes a column number itself.** A column of a MySQL table is a sequence, without
a name, if its row has `auto_increment` in the further attributes or in the text of the default,
and then generated SQL may not write it. So the attributes alone decide exactly if the text of the
default does not say what they do not say. -/
theorem auto_increment_in_either {i : Nat} {d : DriverColumn} (hd : drivers[i]? = some d)
    {rows : List CatalogColumn} {keys : List String} {row : CatalogColumn}
    (last : IsLastRow .mySql rows d.name row) :
    let recorded := (assemble adapter.recorded .mySql resource resolver drivers).run (s, [])
    let identifier : TableIdentifier := ⟨resource.database, resolver.tableOf d.name⟩
    columnsAnswer? recorded.2.2 identifier = some (.ok rows) →
    keysAnswer? recorded.2.2 identifier = some (.ok keys) →
    ∃ c : Column,
      ((assemble adapter .mySql resource resolver drivers).run s).1.columns[i]? = some c ∧
      (c.sequence ↔ MentionsAutoIncrement row.defaultValue ∨ MentionsAutoIncrement row.extra) ∧
      c.sequenceName = none ∧
      (c.isWritable ↔ d.readOnly = false ∧ ¬ MentionsAutoIncrement row.defaultValue ∧
        ¬ MentionsAutoIncrement row.extra) ∧
      ((c.sequence ↔ MentionsAutoIncrement row.extra) ↔
        (MentionsAutoIncrement row.defaultValue → MentionsAutoIncrement row.extra)) := by
  intro recorded identifier told toldKeys
  obtain ⟨c, column, bare, facts⟩ := facts_of_recorded hd told toldKeys
  have taken : c.TakenFrom .mySql row := CatalogFacts.takenFrom_of_isLastRow facts last
  have readOnly : c.readOnly = d.readOnly := congrArg Column.readOnly bare
  have sequence : c.sequence ↔
      MentionsAutoIncrement row.defaultValue ∨ MentionsAutoIncrement row.extra := by
    simp only [taken.sequence, CatalogColumn.drawsFrom_mySql_iff, exists_eq_left]
  refine ⟨c, column, sequence, ?_, ?_, ?_⟩
  · rw [Option.eq_none_iff_forall_ne_some]
    intro name named
    obtain ⟨drawn, draws, named⟩ := (taken.sequenceName name).mp named
    obtain ⟨rfl, -⟩ := (row.drawsFrom_mySql_iff drawn).mp draws
    cases named
  · rw [← not_or, ← sequence, Column.isWritable, readOnly]
    simp
  · rw [sequence]
    constructor
    · intro decides default
      exact decides.mp (.inl default)
    · intro covered
      exact ⟨fun either => either.elim covered id, .inr⟩

/-- Only the notes of the films, without their numbers. -/
def notes : Resource where
  name := "notes"
  query := "SELECT f.note FROM film f"
  table := "film"
  database := some "sakila"

def noteRow : CatalogColumn := ⟨"note", "varchar", some "auto_increment", some ""⟩

def noteRows : List CatalogColumn :=
  [⟨"film_id", "smallint", none, some "auto_increment"⟩, noteRow]

def noteStore : CatalogStore :=
  CatalogStore.empty.addTable ⟨some "sakila", "film"⟩ ⟨noteRows, ["film_id"]⟩

def note : DriverColumn := ⟨"note", "note", "VARCHAR", false⟩

theorem exchanges_notes :
    let resolver := Resolver.ofResource .mySql notes
    let log := ((assemble noteStore.counted.recorded .mySql notes resolver [note]).run (0, [])).2.2
    resolver.tableOf note.name = "film" ∧
    columnsAnswer? log ⟨notes.database, "film"⟩ = some (.ok noteRows) ∧
    keysAnswer? log ⟨notes.database, "film"⟩ = some (.ok ["film_id"]) := by
  decide +kernel

/-- A text that is `auto_increment` by default makes its column a sequence that may not be written,
though the attributes do not. -/
theorem auto_increment_in_note :
    ¬ MentionsAutoIncrement noteRow.extra ∧
    ∃ c, ((assemble noteStore.counted .mySql notes (.ofResource .mySql notes) [note]).run
        0).1.columns[0]? = some c ∧
      c.sequence = true ∧ c.isWritable = false ∧
      ¬ (c.sequence ↔ MentionsAutoIncrement noteRow.extra) := by
  have first : [note][0]? = some note := rfl
  have last : IsLastRow .mySql noteRows note.name noteRow := ⟨noteRows.take 1, [], rfl, rfl, nofun⟩
  have inDefault : MentionsAutoIncrement noteRow.defaultValue := by
    rw [noteRow, mentionsAutoIncrement_some_iff]
    decide +kernel
  have notInExtra : ¬ MentionsAutoIncrement noteRow.extra := by
    rw [noteRow, mentionsAutoIncrement_some_iff]
    decide
  obtain ⟨table, told, toldKeys⟩ := exchanges_notes
  rw [← table] at told toldKeys
  obtain ⟨c, column, sequence, -, writable, decides⟩ :=
    auto_increment_in_either first last told toldKeys
  refine ⟨notInExtra, c, column, sequence.mpr (.inl inDefault), ?_, ?_⟩
  · rw [Bool.eq_false_iff, ne_eq, writable]
    exact fun free => free.2.1 inDefault
  · rw [decides]
    exact fun covered => notInExtra (covered inDefault)

end Assembly

end ColumnOrigin
