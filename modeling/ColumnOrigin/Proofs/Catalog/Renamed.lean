import ColumnOrigin.Proofs.Catalog.Steady
import ColumnOrigin.Proofs.Query.Attribution

/-!
# Columns under another name

A column is attributed by the name that it has in the result, and its table is then asked about that
same name. For `q.x AS n` the table is that of `q`, but the catalog facts are those of the table's
column `n`, not of `x` (`facts_of_output_name`).
-/

namespace ColumnOrigin

namespace Assembly
variable {σ : Type} {adapter : CatalogAdapter (StateM σ)} {dialect : Dialect}
variable {resource : Resource} {resolver : Resolver} {drivers : List DriverColumn} {i : Nat}
variable {d : DriverColumn} {rows : List CatalogColumn} {keys : List String}

/-- A column of a table that is read has the facts of its name in the result. -/
theorem facts_of_gives (dialect : Dialect) (hd : drivers[i]? = some d)
    (given : adapter.Gives ⟨resource.database, resolver.tableOf d.name⟩ (.ok rows) (.ok keys))
    (s : σ) :
    ∃ c : Column,
      ((assemble adapter dialect resource resolver drivers).run s).1.columns[i]? = some c ∧
      c.tableName = resolver.tableOf d.name ∧ c.facts = .ofTable dialect rows keys d.name := by
  refine ⟨_, column_of_gives hd given s, ?_, ?_⟩
  · exact congrArg Column.tableName (bare_described _ (i + 1) d _)
  · exact TableCatalog.facts_stamp rows keys
      (attributed dialect resource (resolver.tableOf d.name) (i + 1) d)

/-- **The catalog is asked about the output name.** A projected `q.x AS n` whose qualifier names the
table `t` gets the facts that `t` has about `n`. So it keeps those of `x` exactly when the two
agree, as they do when `n` folds to the same as `x`. -/
theorem facts_of_output_name {s : Sql.Select} (h : resource.Selects dialect s) (plain : s.isPlain)
    (distinctTables : (s.tables.map fun t => dialect.fold t.correlation).Nodup)
    (distinctNames : ((s.projection.filterMap (·.outputName?)).map dialect.fold).Nodup)
    {front : List String} {q x n : String}
    (projected : .aliased (.column (front ++ [q, x])) n ∈ s.projection)
    {t : BaseTable} (member : t ∈ s.tables) (called : dialect.fold t.correlation = dialect.fold q)
    (given : adapter.Gives ⟨resource.database, dialect.fold t.table⟩ (.ok rows) (.ok keys))
    (hd : drivers[i]? = some d) (named : dialect.fold d.name = dialect.fold n) (start : σ) :
    ∃ c : Column,
      ((assemble adapter dialect resource (.ofResource dialect resource) drivers).run
        start).1.columns[i]? = some c ∧
      c.tableName = dialect.fold t.table ∧
      c.facts = .ofTable dialect rows keys n ∧
      (c.facts = .ofTable dialect rows keys x ↔
        CatalogFacts.ofTable dialect rows keys n = .ofTable dialect rows keys x) ∧
      (dialect.fold n = dialect.fold x → c.facts = .ofTable dialect rows keys x) := by
  have last : s.lastNamed? dialect.caseFolding d.name =
      some (.aliased (.column (front ++ [q, x])) n) :=
    Sql.lastNamed_of_distinct distinctNames projected rfl named.symm
  have table : (Resolver.ofResource dialect resource).tableOf d.name = dialect.fold t.table :=
    Resolver.tableOf_of_attributes h plain distinctTables
      (.declared _ q t last (by simp [Sql.SelectItem.qualifier?]) member called)
  obtain ⟨c, hc, tableName, facts⟩ := facts_of_gives dialect hd (table ▸ given) start
  have ofName : c.facts = .ofTable dialect rows keys n :=
    facts.trans (CatalogFacts.ofTable_congr named rows keys)
  refine ⟨c, hc, tableName.trans table, ofName, by rw [ofName], ?_⟩
  intro same
  rw [ofName, CatalogFacts.ofTable_congr same]

/-- The key has another name, and the title has the key's. -/
def renamed : Resource where
  name := "renamed"
  query := "SELECT f.film_id AS id, f.title AS film_id FROM film f"
  table := "film"
  database := some "public"

def renamedSelect : Sql.Select where
  projection := [.aliased (.column ["f", "film_id"]) "id",
    .aliased (.column ["f", "title"]) "film_id"]
  sources := [.single (.table ["film"] false (some "f"))]

def renamedColumns : List DriverColumn :=
  [⟨"id", "id", "int4", false⟩, ⟨"film_id", "film_id", "text", false⟩]

/-- The key comes out as an ordinary column, and the title as the key with its sequence. -/
theorem facts_renamed :
    let columns := ((assemble filmStore.counted .postgres renamed
      (.ofResource .postgres renamed) renamedColumns).run 0).1.columns
    renamed.Selects .postgres renamedSelect ∧
      (∃ c, columns[0]? = some c ∧ c.tableName = "film" ∧ c.facts = .unknown ∧
        c.facts ≠ .ofTable .postgres filmRows ["film_id"] "film_id") ∧
      ∃ c, columns[1]? = some c ∧ c.tableName = "film" ∧
        c.facts = ⟨true, some "nextval('film_film_id_seq'::regclass)", true,
          some "film_film_id_seq"⟩ ∧
        c.facts ≠ .ofTable .postgres filmRows ["film_id"] "title" := by
  intro columns
  have selects : renamed.Selects .postgres renamedSelect := ⟨_, by decide +kernel, .select⟩
  have plain : renamedSelect.isPlain := by decide
  have distinctTables : (renamedSelect.tables.map fun t =>
      Dialect.postgres.fold t.correlation).Nodup := by decide +kernel
  have distinctNames : ((renamedSelect.projection.filterMap (·.outputName?)).map
      Dialect.postgres.fold).Nodup := by decide +kernel
  have folded : Dialect.postgres.fold "film" = "film" := by decide +kernel
  have given : filmStore.counted.Gives ⟨renamed.database, Dialect.postgres.fold "film"⟩
      (.ok filmRows) (.ok ["film_id"]) := by
    have columns : filmStore.fetchColumns ⟨renamed.database, "film"⟩ = .ok filmRows := by
      decide +kernel
    have keys : filmStore.fetchPrimaryKeys ⟨renamed.database, "film"⟩ = .ok ["film_id"] := by
      decide +kernel
    rw [folded, ← columns, ← keys]
    exact filmStore.gives_counted _
  have key : .aliased (.column ([] ++ ["f", "film_id"])) "id" ∈ renamedSelect.projection := by
    decide
  have title : .aliased (.column ([] ++ ["f", "title"])) "film_id" ∈ renamedSelect.projection := by
    decide
  have film : (⟨"film", "f"⟩ : BaseTable) ∈ renamedSelect.tables := by decide
  have first : renamedColumns[0]? = some ⟨"id", "id", "int4", false⟩ := rfl
  have second : renamedColumns[1]? = some ⟨"film_id", "film_id", "text", false⟩ := rfl
  obtain ⟨c, hc, table, facts, -, -⟩ := facts_of_output_name selects plain distinctTables
    distinctNames key film rfl given first rfl 0
  obtain ⟨c', hc', table', facts', -, -⟩ := facts_of_output_name selects plain distinctTables
    distinctNames title film rfl given second rfl 0
  rw [folded] at table table'
  refine ⟨selects, ⟨c, hc, table, ?_⟩, c', hc', table', ?_⟩
  · rw [facts]
    decide +kernel
  · rw [facts']
    decide +kernel

end Assembly

end ColumnOrigin
