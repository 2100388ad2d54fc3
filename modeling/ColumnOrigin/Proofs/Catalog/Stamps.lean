import ColumnOrigin.Proofs.Catalog.Transcript

/-!
# What a column takes from its table's rows and keys

Rows and keys are known by their folded names, and both may repeat a name. The key mark only needs
some key of the name; everything else comes from the last row of the name (`IsLastRow`), and a
sequence from the first of that row's texts that is one (`CatalogColumn.DrawsFrom`).
`Assembly.stamped_as_told` says so of a column in a run, whatever the catalog answered.
-/

namespace ColumnOrigin

/-- `row` is the last of the rows that have the name, as the dialect folds names. -/
def IsLastRow (dialect : Dialect) (rows : List CatalogColumn) (name : String)
    (row : CatalogColumn) : Prop :=
  IsLast (fun row => dialect.fold row.name = dialect.fold name) rows row

/-- The sequence that a row's column is drawn from. It is found in the text of the default, or else
in the further attributes. -/
inductive CatalogColumn.DrawsFrom (dialect : Dialect) (row : CatalogColumn)
    (sequence : SequenceDefault) : Prop
  | byDefault (text : String) (given : row.defaultValue = some text)
      (found : dialect.detectSequence text = some sequence)
  | byExtra (text : String)
      (plain : ∀ other, row.defaultValue = some other → dialect.detectSequence other = none)
      (given : row.extra = some text) (found : dialect.detectSequence text = some sequence)

/-- The column has what this row says: its default, and the sequence that it is drawn from. -/
structure Column.TakenFrom (dialect : Dialect) (row : CatalogColumn) (c : Column) : Prop where
  default : c.defaultValue = row.defaultValue
  sequence : c.sequence ↔ ∃ sequence, row.DrawsFrom dialect sequence
  sequenceName : ∀ name, c.sequenceName = some name ↔
    ∃ sequence, row.DrawsFrom dialect sequence ∧ sequence.name = some name

namespace CatalogFacts
variable {dialect : Dialect} {rows : List CatalogColumn} {keys : List String} {name : String}

theorem findSome?_detectSequence_eq_some_iff (row : CatalogColumn) (sequence : SequenceDefault) :
    (row.defaultValue.toList ++ row.extra.toList).findSome? dialect.detectSequence =
      some sequence ↔ row.DrawsFrom dialect sequence := by
  rw [List.findSome?_append, Option.or_eq_some_iff]
  constructor
  · rintro (found | ⟨plain, found⟩)
    · obtain ⟨text, given, found⟩ := List.exists_of_findSome?_eq_some found
      exact .byDefault text (Option.mem_toList.mp given) found
    · obtain ⟨text, given, found⟩ := List.exists_of_findSome?_eq_some found
      rw [List.findSome?_eq_none_iff] at plain
      refine .byExtra text ?_ (Option.mem_toList.mp given) found
      intro other stands
      exact plain other (Option.mem_toList.mpr stands)
  · rintro (⟨text, given, found⟩ | ⟨text, plain, given, found⟩)
    · left
      rw [given, Option.toList_some, List.findSome?_singleton, found]
    · right
      rw [given, Option.toList_some, List.findSome?_singleton, found, List.findSome?_eq_none_iff]
      refine ⟨?_, rfl⟩
      intro other stands
      exact plain other (Option.mem_toList.mp stands)

theorem primaryKey_ofTable_iff :
    (ofTable dialect rows keys name).primaryKey ↔
      ∃ key ∈ keys, dialect.fold key = dialect.fold name := by
  simp [ofTable]

theorem defaultValue_ofTable_eq_some_iff (v : String) :
    (ofTable dialect rows keys name).defaultValue = some v ↔
      ∃ row, IsLastRow dialect rows name row ∧ row.defaultValue = some v := by
  simp only [ofTable, Option.bind_eq_some_iff, findRev?_eq_some_iff, IsLastRow]

/-- What the column is drawn from is what its last row is. -/
theorem drawn_eq_some_iff (sequence : SequenceDefault) :
    ((rows.findRev? fun row => dialect.fold row.name = dialect.fold name).bind fun row =>
      (row.defaultValue.toList ++ row.extra.toList).findSome? dialect.detectSequence) =
        some sequence ↔
      ∃ row, IsLastRow dialect rows name row ∧ row.DrawsFrom dialect sequence := by
  simp only [Option.bind_eq_some_iff, findRev?_eq_some_iff, IsLastRow,
    findSome?_detectSequence_eq_some_iff]

theorem sequence_ofTable_iff :
    (ofTable dialect rows keys name).sequence ↔
      ∃ row sequence, IsLastRow dialect rows name row ∧ row.DrawsFrom dialect sequence := by
  simp only [ofTable, Option.isSome_iff_exists, drawn_eq_some_iff]
  exact exists_comm

theorem sequenceName_ofTable_eq_some_iff (n : String) :
    (ofTable dialect rows keys name).sequenceName = some n ↔
      ∃ row sequence, IsLastRow dialect rows name row ∧ row.DrawsFrom dialect sequence ∧
        sequence.name = some n := by
  rw [ofTable, Option.bind_eq_some_iff]
  simp only [drawn_eq_some_iff]
  constructor
  · rintro ⟨sequence, ⟨row, last, draws⟩, named⟩
    exact ⟨row, sequence, last, draws, named⟩
  · rintro ⟨row, sequence, last, draws, named⟩
    exact ⟨sequence, ⟨row, last, draws⟩, named⟩

/-- A column with the facts of a name is taken from the last row of that name. -/
theorem takenFrom_of_isLastRow {c : Column} (facts : c.facts = ofTable dialect rows keys name)
    {row : CatalogColumn} (last : IsLastRow dialect rows name row) : c.TakenFrom dialect row := by
  have found : (rows.findRev? fun row => dialect.fold row.name = dialect.fold name) = some row :=
    findRev?_eq_some_iff.mpr last
  have drawn (sequence : SequenceDefault) :
      (row.defaultValue.toList ++ row.extra.toList).findSome? dialect.detectSequence =
        some sequence ↔ row.DrawsFrom dialect sequence :=
    findSome?_detectSequence_eq_some_iff row sequence
  simp only [ofTable, found, Option.bind_some, Column.facts, mk.injEq] at facts
  obtain ⟨-, default, sequence, named⟩ := facts
  refine ⟨default, ?_, ?_⟩
  · rw [sequence, Option.isSome_iff_exists]
    exact exists_congr drawn
  · intro name
    simp only [named, Option.bind_eq_some_iff, drawn]

end CatalogFacts

namespace Assembly
open Exchange
variable {σ : Type} {adapter : CatalogAdapter (StateM σ)} {dialect : Dialect}
variable {resource : Resource} {resolver : Resolver} {drivers : List DriverColumn} {s : σ}

/-- A column whose table was read has what the table says about its name, and is otherwise as it
was attributed. -/
theorem facts_of_recorded {i : Nat} {d : DriverColumn} (hd : drivers[i]? = some d)
    {rows : List CatalogColumn} {keys : List String}
    (told : columnsAnswer? ((assemble adapter.recorded dialect resource resolver drivers).run
      (s, [])).2.2 ⟨resource.database, resolver.tableOf d.name⟩ = some (.ok rows))
    (toldKeys : keysAnswer? ((assemble adapter.recorded dialect resource resolver drivers).run
      (s, [])).2.2 ⟨resource.database, resolver.tableOf d.name⟩ = some (.ok keys)) :
    ∃ c : Column,
      ((assemble adapter dialect resource resolver drivers).run s).1.columns[i]? = some c ∧
      c.bare = attributed dialect resource (resolver.tableOf d.name) (i + 1) d ∧
      c.facts = .ofTable dialect rows keys d.name := by
  obtain ⟨answer, member⟩ : ∃ answer, (resolver.tableOf d.name, answer) ∈
      answersOf adapter dialect resource resolver drivers s :=
    exists_answer (Resolver.mem_tablesOf hd)
  have read : answer = .ok (.ofRows dialect rows keys) :=
    (explains_recorded adapter dialect resource resolver member).answer_eq told toldKeys
  subst read
  refine ⟨_, column_run hd member, bare_described _ (i + 1) d _, ?_⟩
  exact TableCatalog.facts_stamp rows keys
    (attributed dialect resource (resolver.tableOf d.name) (i + 1) d)

/-- **A column has what the rows and keys of its table say about its name**, whatever they repeat
and however the catalog answers about other tables. It is a key if some key has its name, with or
without a row. Its default is that of the last row of its name. It is drawn from a sequence if that
row's default is one, or else its further attributes are, and the name of the sequence is the one
found there. All else is as the driver and the attribution give it. -/
theorem stamped_as_told {i : Nat} {d : DriverColumn} (hd : drivers[i]? = some d)
    {rows : List CatalogColumn} {keys : List String} :
    let result := ((assemble adapter dialect resource resolver drivers).run s).1
    let recorded := (assemble adapter.recorded dialect resource resolver drivers).run (s, [])
    let identifier : TableIdentifier := ⟨resource.database, resolver.tableOf d.name⟩
    columnsAnswer? recorded.2.2 identifier = some (.ok rows) →
    keysAnswer? recorded.2.2 identifier = some (.ok keys) →
    recorded.1 = result ∧
    ∃ c : Column, result.columns[i]? = some c ∧
      c.bare = attributed dialect resource (resolver.tableOf d.name) (i + 1) d ∧
      (c.primaryKey ↔ ∃ key ∈ keys, dialect.fold key = dialect.fold d.name) ∧
      (∀ text, c.defaultValue = some text ↔
        ∃ row, IsLastRow dialect rows d.name row ∧ row.defaultValue = some text) ∧
      (c.sequence ↔ ∃ row sequence, IsLastRow dialect rows d.name row ∧
        row.DrawsFrom dialect sequence) ∧
      ∀ name, c.sequenceName = some name ↔ ∃ row sequence, IsLastRow dialect rows d.name row ∧
        row.DrawsFrom dialect sequence ∧ sequence.name = some name := by
  intro result recorded identifier told toldKeys
  have unchanged : recorded.1 = result := by
    obtain ⟨_, -, same⟩ := run_recorded adapter dialect resource resolver drivers s
    exact congrArg Prod.fst same
  obtain ⟨c, column, bare, facts⟩ := facts_of_recorded hd told toldKeys
  have key : c.primaryKey = (CatalogFacts.ofTable dialect rows keys d.name).primaryKey :=
    congrArg CatalogFacts.primaryKey facts
  have default : c.defaultValue = (CatalogFacts.ofTable dialect rows keys d.name).defaultValue :=
    congrArg CatalogFacts.defaultValue facts
  have sequence : c.sequence = (CatalogFacts.ofTable dialect rows keys d.name).sequence :=
    congrArg CatalogFacts.sequence facts
  have named : c.sequenceName = (CatalogFacts.ofTable dialect rows keys d.name).sequenceName :=
    congrArg CatalogFacts.sequenceName facts
  refine ⟨unchanged, c, column, bare, ?_, ?_, ?_, ?_⟩
  · rw [key]
    exact CatalogFacts.primaryKey_ofTable_iff
  · intro text
    rw [default]
    exact CatalogFacts.defaultValue_ofTable_eq_some_iff text
  · rw [sequence]
    exact CatalogFacts.sequence_ofTable_iff
  · intro name
    rw [named]
    exact CatalogFacts.sequenceName_ofTable_eq_some_iff name

/-- Two rows and two keys have one name. The last row draws from a sequence by its further
attributes, the first by its default. -/
def twofoldRows : List CatalogColumn :=
  [⟨"FILM_ID", "integer", some "nextval('old_seq')", none⟩, ⟨"title", "text", none, none⟩,
    ⟨"film_id", "integer", some "0", some "nextval('film_film_id_seq')"⟩]

def twofold : CatalogStore :=
  CatalogStore.empty.addTable ⟨some "public", "film"⟩ ⟨twofoldRows, ["Film_ID", "film_id"]⟩

theorem exchanges_twofold :
    let log := ((assemble twofold.counted.recorded .postgres films (.ofResource .postgres films)
      [language, filmId]).run (0, [])).2.2
    columnsAnswer? log ⟨films.database, "film"⟩ = some (.ok twofoldRows) ∧
    keysAnswer? log ⟨films.database, "film"⟩ = some (.ok ["Film_ID", "film_id"]) := by
  rw [ofResource_films]
  decide +kernel

/-- The column is the key, with the last row's default and the last row's sequence. -/
theorem stamped_as_told_twofold :
    ∃ c, ((assemble twofold.counted .postgres films (.ofResource .postgres films)
        [language, filmId]).run 0).1.columns[1]? = some c ∧
      c.tableName = "film" ∧ c.primaryKey = true ∧ c.defaultValue = some "0" ∧
      c.sequence = true ∧ c.sequenceName = some "film_film_id_seq" := by
  have second : [language, filmId][1]? = some filmId := rfl
  obtain ⟨told, toldKeys⟩ := exchanges_twofold
  rw [← tableOf_filmId] at told toldKeys
  obtain ⟨-, c, column, bare, key, default, drawn, named⟩ :=
    stamped_as_told second told toldKeys
  have last : IsLastRow .postgres twofoldRows filmId.name
      ⟨"film_id", "integer", some "0", some "nextval('film_film_id_seq')"⟩ :=
    ⟨twofoldRows.take 2, [], rfl, rfl, nofun⟩
  have draws : CatalogColumn.DrawsFrom .postgres
      ⟨"film_id", "integer", some "0", some "nextval('film_film_id_seq')"⟩
      (.named "film_film_id_seq") := by
    refine .byExtra _ ?_ rfl (by decide +kernel)
    rintro _ ⟨⟩
    decide +kernel
  refine ⟨c, column, ?_, key.mpr ?_, (default _).mpr ⟨_, last, rfl⟩,
    drawn.mpr ⟨_, _, last, draws⟩, (named _).mpr ⟨_, _, last, draws, rfl⟩⟩
  · simpa only [Column.bare, attributed, tableOf_filmId] using congrArg Column.tableName bare
  · exact ⟨"film_id", by decide, rfl⟩

end Assembly

end ColumnOrigin
