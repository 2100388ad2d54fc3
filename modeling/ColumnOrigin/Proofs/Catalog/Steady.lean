import ColumnOrigin.Catalog.MemoryCatalog
import ColumnOrigin.Proofs.Catalog.Answers
import ColumnOrigin.Proofs.Catalog.Facts
import ColumnOrigin.Proofs.Query.Resolver

/-!
# Catalogs that keep to their answers

A run remembers what it was told about a table. If the catalog gives the same answers each time,
this is not seen in the result: each column comes out as it would alone, but for its number
(`assemble_columnwise`).
-/

namespace ColumnOrigin

/-- Whenever it is asked about the table, the adapter gives these answers. -/
structure CatalogAdapter.Gives {σ : Type} (adapter : CatalogAdapter (StateM σ))
    (t : TableIdentifier) (columns : Except FetchError (List CatalogColumn))
    (keys : Except FetchError (List String)) : Prop where
  columns_eq : ∀ s, ((adapter.fetchColumns t).run s).1 = columns
  keys_eq : ∀ s, ((adapter.fetchPrimaryKeys t).run s).1 = keys

/-- The adapter gives the same answers each time it is asked about a table. -/
def CatalogAdapter.Steady {σ : Type} (adapter : CatalogAdapter (StateM σ)) : Prop :=
  ∀ t, ∃ columns keys, adapter.Gives t columns keys

/-- The store as a catalog that counts its questions. -/
def CatalogStore.counted (s : CatalogStore) : CatalogAdapter (StateM Nat) where
  fetchColumns t := do modify (· + 1); pure (s.fetchColumns t)
  fetchPrimaryKeys t := do modify (· + 1); pure (s.fetchPrimaryKeys t)

theorem CatalogStore.gives_counted (s : CatalogStore) (t : TableIdentifier) :
    s.counted.Gives t (s.fetchColumns t) (s.fetchPrimaryKeys t) :=
  ⟨fun _ => rfl, fun _ => rfl⟩

theorem CatalogStore.steady_counted (s : CatalogStore) : s.counted.Steady :=
  fun t => ⟨_, _, s.gives_counted t⟩

/-- The column without its place. -/
def Column.unnumbered (c : Column) : Column := { c with number := 0 }

namespace Assembly
variable {σ : Type} {dialect : Dialect} {resource : Resource} {resolver : Resolver}
variable {adapter : CatalogAdapter (StateM σ)}

/-- What comes of the two answers about a table. -/
def combined (dialect : Dialect) (columns : Except FetchError (List CatalogColumn))
    (keys : Except FetchError (List String)) : Answer :=
  columns.bind fun rows => keys.map (.ofRows dialect rows)

theorem fetch_of_gives {t : TableIdentifier} {columns : Except FetchError (List CatalogColumn)}
    {keys : Except FetchError (List String)} (given : adapter.Gives t columns keys) (s : σ) :
    ((fetch adapter dialect t).run s).1 = combined dialect columns keys := by
  have first : (adapter.fetchColumns t).run s = (columns, _) :=
    Prod.ext (given.columns_eq s) rfl
  cases columns with
  | error e => rw [run_fetch_of_no_columns dialect first]; rfl
  | ok rows =>
    have second : (adapter.fetchPrimaryKeys t).run ((adapter.fetchColumns t).run s).2 = (keys, _) :=
      Prod.ext (given.keys_eq _) rfl
    rw [run_fetch_of_columns dialect first second]
    rfl

theorem answer_of_gives {table : String} {columns : Except FetchError (List CatalogColumn)}
    {keys : Except FetchError (List String)}
    (given : adapter.Gives ⟨resource.database, table⟩ columns keys)
    {drivers : List DriverColumn} {s : σ} {answer : Answer}
    (h : (table, answer) ∈ answersOf adapter dialect resource resolver drivers s) :
    answer = combined dialect columns keys := by
  obtain ⟨s', rfl⟩ := answer_of_mem h
  exact fetch_of_gives given s'

theorem column_of_gives {drivers : List DriverColumn} {i : Nat} {d : DriverColumn}
    (hd : drivers[i]? = some d) {columns : Except FetchError (List CatalogColumn)}
    {keys : Except FetchError (List String)}
    (given : adapter.Gives ⟨resource.database, resolver.tableOf d.name⟩ columns keys) (s : σ) :
    ((assemble adapter dialect resource resolver drivers).run s).1.columns[i]? =
      some (described dialect resource (resolver.tableOf d.name) (i + 1) d
        (combined dialect columns keys)) := by
  obtain ⟨answer, h⟩ := exists_answer (Resolver.mem_tablesOf hd)
  rw [column_run hd h, answer_of_gives given h]

theorem stamp_number (catalog : TableCatalog) (c : Column) (number : Nat) :
    catalog.stamp dialect { c with number } = { catalog.stamp dialect c with number } := by
  simp only [TableCatalog.stamp]
  split
  · rfl
  · split <;> rfl

/-- The place of a column only gives it its number. -/
theorem described_number (table : String) (d : DriverColumn) (answer : Answer)
    (number place : Nat) :
    described dialect resource table place d answer =
      { described dialect resource table number d answer with number := place } := by
  cases answer with
  | error e => rfl
  | ok catalog => exact stamp_number catalog (attributed dialect resource table number d) place

/-- The answer about a table only adds catalog facts. -/
theorem bare_described (table : String) (number : Nat) (d : DriverColumn) (answer : Answer) :
    (described dialect resource table number d answer).bare =
      attributed dialect resource table number d := by
  cases answer with
  | error e => rfl
  | ok catalog => exact TableCatalog.bare_stamp catalog _

theorem columns_of_steady (steady : adapter.Steady) (drivers : List DriverColumn) (s s' : σ) :
    ((assemble adapter dialect resource resolver drivers).run s').1.columns.map
        Column.unnumbered =
      drivers.map fun d => described dialect resource (resolver.tableOf d.name) 0 d
        ((fetch adapter dialect ⟨resource.database, resolver.tableOf d.name⟩).run s).1 := by
  apply List.ext_getElem?
  intro i
  cases hd : drivers[i]? with
  | none =>
    have beyond := List.getElem?_eq_none_iff.mp hd
    simp only [List.getElem?_map, hd, Option.map_none, Option.map_eq_none_iff,
      List.getElem?_eq_none_iff, length_run, beyond]
  | some d =>
    obtain ⟨columns, keys, given⟩ := steady ⟨resource.database, resolver.tableOf d.name⟩
    simp only [List.getElem?_map, hd, Option.map_some, column_of_gives hd given,
      fetch_of_gives given]
    rw [Column.unnumbered, ← described_number]

/-- **What is remembered about tables is not seen.** If the catalog keeps to its answers, a column
comes out as it would alone, with the number of its place, and picking columns in any order picks
their results in that order. -/
theorem assemble_columnwise (dialect : Dialect) (resource : Resource) (resolver : Resolver)
    (steady : adapter.Steady) (drivers : List DriverColumn) (s : σ) :
    let whole := ((assemble adapter dialect resource resolver drivers).run s).1.columns
    whole.length = drivers.length ∧
    (∀ (i : Nat) (d : DriverColumn), drivers[i]? = some d → ∀ s', ∃ alone,
      ((assemble adapter dialect resource resolver [d]).run s').1.columns = [alone] ∧
      whole[i]? = some { alone with number := i + 1 }) ∧
    ∀ (order : List Nat) s',
      ((assemble adapter dialect resource resolver
        (order.filterMap fun i => drivers[i]?)).run s').1.columns.map Column.unnumbered =
      order.filterMap fun i => (whole.map Column.unnumbered)[i]? := by
  intro whole
  refine ⟨length_run, ?_, ?_⟩
  · intro i d hd s'
    obtain ⟨columns, keys, given⟩ := steady ⟨resource.database, resolver.tableOf d.name⟩
    obtain ⟨alone, single⟩ : ∃ alone,
        ((assemble adapter dialect resource resolver [d]).run s').1.columns = [alone] :=
      List.length_eq_one_iff.mp length_run
    have first : ((assemble adapter dialect resource resolver [d]).run s').1.columns[0]? =
        some _ := column_of_gives rfl given s'
    rw [single, List.getElem?_cons_zero, Option.some.injEq] at first
    refine ⟨alone, single, ?_⟩
    rw [column_of_gives hd given, first, ← described_number]
  · intro order s'
    simp only [whole, columns_of_steady steady _ s, List.map_filterMap, List.getElem?_map]

def filmRows : List CatalogColumn :=
  [⟨"film_id", "integer", some "nextval('film_film_id_seq'::regclass)", none⟩,
    ⟨"title", "text", none, none⟩]

def filmStore : CatalogStore :=
  CatalogStore.empty.addTable ⟨some "public", "film"⟩ ⟨filmRows, ["film_id"]⟩

def films : Resource where
  name := "films"
  query := "SELECT f.film_id, l.name, f.title FROM film f LEFT JOIN language l ON 1 = 1"
  table := "film"
  database := some "public"

def filmsShape : Shape :=
  ⟨[.outerJoin (.base "film" (some "f")) (.base "language" (some "l"))],
    [⟨"film_id", some "f"⟩, ⟨"name", some "l"⟩, ⟨"title", some "f"⟩], []⟩

theorem ofResource_films :
    Resolver.ofResource .postgres films = .ofShape films .lower filmsShape :=
  Resolver.ofResource_of_shape (by decide +kernel)

def filmId : DriverColumn := ⟨"film_id", "film_id", "int4", false⟩

def language : DriverColumn := ⟨"name", "language", "bpchar", false⟩

def title : DriverColumn := ⟨"title", "title", "text", false⟩

theorem tableOf_films :
    [filmId, language].map (fun d => (Resolver.ofResource .postgres films).tableOf d.name) =
      ["film", "language"] := by
  rw [ofResource_films]
  decide +kernel

theorem tableOf_filmId : (Resolver.ofResource .postgres films).tableOf filmId.name = "film" :=
  (List.cons_eq_cons.mp tableOf_films).1

theorem tableOf_language :
    (Resolver.ofResource .postgres films).tableOf language.name = "language" :=
  (List.cons_eq_cons.mp (List.cons_eq_cons.mp tableOf_films).2).1

/-- The first film column is what the store answers about the films. -/
theorem film_column (store : CatalogStore) (rest : List DriverColumn) :
    ((assemble store.counted .postgres films (.ofResource .postgres films)
      (filmId :: rest)).run 0).1.columns[0]? =
      some (described .postgres films "film" 1 filmId (combined .postgres
        (store.fetchColumns ⟨films.database, "film"⟩)
        (store.fetchPrimaryKeys ⟨films.database, "film"⟩))) := by
  have first : (filmId :: rest)[0]? = some filmId := rfl
  have given := store.gives_counted
    ⟨films.database, (Resolver.ofResource .postgres films).tableOf filmId.name⟩
  rw [column_of_gives first given 0, tableOf_filmId]

/-- The key is one also after a column of a table that cannot be read. -/
theorem assemble_columnwise_films :
    let columns (drivers : List DriverColumn) := ((assemble filmStore.counted .postgres films
      (.ofResource .postgres films) drivers).run 0).1.columns
    filmStore.counted.Steady ∧
      (∃ alone, columns [filmId] = [alone] ∧ alone.primaryKey = true ∧
        (columns [title, language, filmId])[2]? = some { alone with number := 3 }) ∧
      (columns [filmId, language, title]).map Column.unnumbered =
        [2, 1, 0].filterMap fun i =>
          ((columns [title, language, filmId]).map Column.unnumbered)[i]? := by
  intro columns
  have steady : filmStore.counted.Steady := filmStore.steady_counted
  obtain ⟨-, each, picked⟩ := assemble_columnwise .postgres films (.ofResource .postgres films)
    steady [title, language, filmId] 0
  obtain ⟨alone, single, placed⟩ := each 2 filmId rfl 0
  have column := film_column filmStore []
  rw [single, List.getElem?_cons_zero, Option.some.injEq] at column
  have key : alone.primaryKey = true := by
    rw [column]
    decide +kernel
  have backwards : [2, 1, 0].filterMap (fun i => [title, language, filmId][i]?) =
      [filmId, language, title] := rfl
  have reversed := picked [2, 1, 0] 0
  rw [backwards] at reversed
  exact ⟨steady, ⟨alone, single, key, placed⟩, reversed⟩

end Assembly

end ColumnOrigin
