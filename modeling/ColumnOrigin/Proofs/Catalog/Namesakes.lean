import ColumnOrigin.Proofs.Catalog.Stamps
import Mathlib.Data.List.Nodup

/-!
# Rows whose names fold alike

The rows of a table are known by their folded names. So a column that is called exactly as one of
the rows is taken from that row in every order of the rows exactly if no other row's name folds to
the same, and it is a key exactly if it is listed as one, unless a key in another spelling is listed
in its place (`taken_from_namesake`).
-/

namespace ColumnOrigin

variable {dialect : Dialect} {rows : List CatalogColumn} {keys : List String} {name : String}

theorem fold_of_preserve (preserves : dialect.caseFolding = .preserve) (name : String) :
    dialect.fold name = name := by
  rw [Dialect.fold, preserves]
  rfl

/-- Where rows have different names, a row is alone under its folded name if the dialect keeps names
as they are. -/
theorem eq_of_fold_eq_of_preserve (preserves : dialect.caseFolding = .preserve)
    (distinct : (rows.map (·.name)).Nodup) {row other : CatalogColumn} (member : row ∈ rows)
    (member' : other ∈ rows) (alike : dialect.fold other.name = dialect.fold row.name) :
    other = row := by
  rw [fold_of_preserve preserves, fold_of_preserve preserves] at alike
  exact List.inj_on_of_nodup_map distinct member' member alike

/-- Looking for a name by its folding is as good as looking for the name itself, unless only other
spellings of it are listed. -/
theorem found_iff_mem_iff :
    ((∃ key ∈ keys, dialect.fold key = dialect.fold name) ↔ name ∈ keys) ↔
      name ∈ keys ∨ ∀ key ∈ keys, dialect.fold key ≠ dialect.fold name := by
  constructor
  · intro agree
    by_cases listed : name ∈ keys
    · exact .inl listed
    · exact .inr fun key member same => listed (agree.mp ⟨key, member, same⟩)
  · rintro (listed | none)
    · exact ⟨fun _ => listed, fun _ => ⟨name, listed, rfl⟩⟩
    · exact ⟨fun ⟨key, member, same⟩ => absurd same (none key member),
        fun listed => absurd rfl (none name listed)⟩

namespace Assembly
open Exchange
variable {σ : Type} {adapter : CatalogAdapter (StateM σ)}
variable {resource : Resource} {resolver : Resolver} {drivers : List DriverColumn} {s : σ}

/-- **A column is taken from the last row that folds alike.** Here the rows have different names,
and one of them is exactly that of the column. That row is the last one that folds alike in every
order of the rows exactly if it is the only one, and then the column is taken from it. The column is
a key if some key folds alike, which is to say that its own name is listed, unless only other
spellings are. A dialect that keeps names as they are always takes the row and the key of the exact
name. -/
theorem taken_from_namesake {i : Nat} {d : DriverColumn} (hd : drivers[i]? = some d)
    {row : CatalogColumn} (member : row ∈ rows) (named : row.name = d.name)
    (distinct : (rows.map (·.name)).Nodup) :
    let recorded := (assemble adapter.recorded dialect resource resolver drivers).run (s, [])
    let identifier : TableIdentifier := ⟨resource.database, resolver.tableOf d.name⟩
    let alone := ∀ other ∈ rows, dialect.fold other.name = dialect.fold d.name → other = row
    columnsAnswer? recorded.2.2 identifier = some (.ok rows) →
    keysAnswer? recorded.2.2 identifier = some (.ok keys) →
    ∃ c : Column,
      ((assemble adapter dialect resource resolver drivers).run s).1.columns[i]? = some c ∧
      (∃ last, IsLastRow dialect rows d.name last ∧ c.TakenFrom dialect last) ∧
      ((∀ order : List CatalogColumn, order.Perm rows → IsLastRow dialect order d.name row) ↔
        alone) ∧
      (alone → c.TakenFrom dialect row) ∧
      (c.primaryKey ↔ ∃ key ∈ keys, dialect.fold key = dialect.fold d.name) ∧
      ((c.primaryKey ↔ d.name ∈ keys) ↔
        d.name ∈ keys ∨ ∀ key ∈ keys, dialect.fold key ≠ dialect.fold d.name) ∧
      (dialect.caseFolding = .preserve →
        c.TakenFrom dialect row ∧ (c.primaryKey ↔ d.name ∈ keys)) := by
  intro recorded identifier alone told toldKeys
  obtain ⟨c, column, -, facts⟩ := facts_of_recorded hd told toldKeys
  have alike : dialect.fold row.name = dialect.fold d.name := congrArg dialect.fold named
  have inEveryOrder : (∀ order : List CatalogColumn, order.Perm rows →
      IsLastRow dialect order d.name row) ↔ alone :=
    forall_perm_isLast_iff member alike
  have taken (only : alone) : c.TakenFrom dialect row :=
    CatalogFacts.takenFrom_of_isLastRow facts (inEveryOrder.mpr only rows (.refl rows))
  have key : c.primaryKey ↔ ∃ key ∈ keys, dialect.fold key = dialect.fold d.name := by
    have marked : c.primaryKey = (CatalogFacts.ofTable dialect rows keys d.name).primaryKey :=
      congrArg CatalogFacts.primaryKey facts
    rw [marked]
    exact CatalogFacts.primaryKey_ofTable_iff
  refine ⟨c, column, ?_, inEveryOrder, taken, key, ?_, ?_⟩
  · obtain ⟨last, isLast⟩ : ∃ last, IsLastRow dialect rows d.name last :=
      exists_isLast member alike
    exact ⟨last, isLast, CatalogFacts.takenFrom_of_isLastRow facts isLast⟩
  · rw [key]
    exact found_iff_mem_iff
  · intro preserves
    refine ⟨taken fun other present same => ?_, ?_⟩
    · exact eq_of_fold_eq_of_preserve preserves distinct member present (same.trans alike.symm)
    · rw [key]
      simp [fold_of_preserve preserves]

/-- A table with two columns whose names differ in case. The key is the later one. -/
def namesakeRows : List CatalogColumn :=
  [⟨"ID", "integer", some "1", none⟩, ⟨"title", "text", some "'none'", none⟩,
    ⟨"id", "integer", some "nextval('film_id_seq')", none⟩]

def namesakes : CatalogStore :=
  CatalogStore.empty.addTable ⟨some "public", "film"⟩ ⟨namesakeRows, ["id"]⟩

def capitalId : DriverColumn := ⟨"ID", "ID", "int4", false⟩

theorem exchanges_namesakes :
    let log := ((assemble namesakes.counted.recorded .postgres films (.ofResource .postgres films)
      [capitalId, title]).run (0, [])).2.2
    (Resolver.ofResource .postgres films).tableOf capitalId.name = "film" ∧
    (Resolver.ofResource .postgres films).tableOf title.name = "film" ∧
    columnsAnswer? log ⟨films.database, "film"⟩ = some (.ok namesakeRows) ∧
    keysAnswer? log ⟨films.database, "film"⟩ = some (.ok ["id"]) := by
  rw [ofResource_films]
  decide +kernel

/-- The title has no namesake and is taken from its own row, in whatever order the rows come. -/
theorem taken_from_namesake_title :
    ∃ c, ((assemble namesakes.counted .postgres films (.ofResource .postgres films)
        [capitalId, title]).run 0).1.columns[1]? = some c ∧
      (∀ order : List CatalogColumn, order.Perm namesakeRows →
        IsLastRow .postgres order "title" ⟨"title", "text", some "'none'", none⟩) ∧
      c.defaultValue = some "'none'" ∧ ¬ c.primaryKey := by
  have second : [capitalId, title][1]? = some title := rfl
  have member : ⟨"title", "text", some "'none'", none⟩ ∈ namesakeRows := by decide
  have distinct : (namesakeRows.map (·.name)).Nodup := by decide
  have alone : ∀ other ∈ namesakeRows, Dialect.postgres.fold other.name =
      Dialect.postgres.fold title.name → other = ⟨"title", "text", some "'none'", none⟩ := by
    decide +kernel
  obtain ⟨-, table, told, toldKeys⟩ := exchanges_namesakes
  rw [← table] at told toldKeys
  obtain ⟨c, column, -, inEveryOrder, taken, key, -, -⟩ :=
    taken_from_namesake second member rfl distinct told toldKeys
  refine ⟨c, column, inEveryOrder.mpr alone, (taken alone).default, ?_⟩
  rw [key]
  decide +kernel

/-- The column called exactly `ID` is not taken from the row of that name, which has the default 1,
but from the row `id` that comes later, and it is a key although only `id` is listed. -/
theorem namesakes_mixed :
    let drivers := [capitalId, title]
    let resolver := Resolver.ofResource .postgres films
    let log := ((assemble namesakes.counted.recorded .postgres films resolver drivers).run
      (0, [])).2.2
    let columns := ((assemble namesakes.counted .postgres films resolver drivers).run 0).1.columns
    columnsAnswer? log ⟨films.database, "film"⟩ = some (.ok namesakeRows) ∧
    keysAnswer? log ⟨films.database, "film"⟩ = some (.ok ["id"]) ∧
    (namesakeRows.map (·.name)).Nodup ∧
    ⟨"ID", "integer", some "1", none⟩ ∈ namesakeRows ∧
    columns[0]?.map (fun c => (c.name, c.tableName, c.facts)) =
      some ("ID", "film", ⟨true, some "nextval('film_id_seq')", true, some "film_id_seq"⟩) := by
  intro drivers resolver log columns
  simp only [drivers, resolver, log, columns]
  obtain ⟨-, -, told, toldKeys⟩ := exchanges_namesakes
  refine ⟨told, toldKeys, by decide, by decide, ?_⟩
  rw [ofResource_films]
  decide +kernel

end Assembly

end ColumnOrigin
