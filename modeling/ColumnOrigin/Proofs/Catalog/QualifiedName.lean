import ColumnOrigin.Proofs.Catalog.DefaultTable

/-!
# The name that a catalog is asked under

A table has two qualified names: the one that generated SQL uses, which its columns carry, and the
one of the identifier that the catalog is asked about. The first takes an empty schema for none, the
second writes it down, so the two agree exactly where the schema is not the empty one
(`asked_as_named_iff`).
-/

namespace ColumnOrigin

theorem TableIdentifier.qualifiedName_of_empty (table : String) :
    (⟨some "", table⟩ : TableIdentifier).qualifiedName = "." ++ table := by
  simp only [qualifiedName, String.empty_append]

section
variable {dialect : Dialect} (dotted : dialect.qualification = .schemaDotTable)
include dotted

theorem Dialect.qualifiedTableName_of_empty (table : String) :
    dialect.qualifiedTableName (some "") table = table := by
  simp only [qualifiedTableName, dotted, ↓reduceIte]

/-- Where tables are written with their schema, the two names of a table are one unless the schema
is there and empty. -/
theorem TableIdentifier.qualifiedName_eq_iff (schema : Option String) (table : String) :
    (⟨schema, table⟩ : TableIdentifier).qualifiedName = dialect.qualifiedTableName schema table ↔
      schema ≠ some "" := by
  cases schema with
  | none => simp [qualifiedName, Dialect.qualifiedTableName]
  | some schema =>
    rw [ne_eq, Option.some.injEq]
    refine ⟨?_, fun named => ?_⟩
    · rintro same rfl
      rw [qualifiedName_of_empty, Dialect.qualifiedTableName_of_empty dotted] at same
      have length := congrArg String.length same
      rw [String.length_append] at length
      exact absurd length (by simp)
    · simp only [qualifiedName, Dialect.qualifiedTableName, dotted, if_neg named]

end

namespace Assembly
variable {σ : Type} {dialect : Dialect} {drivers : List DriverColumn} {i : Nat} {d : DriverColumn}

/-- **The catalog is asked about the table that generated SQL names, unless the schema is empty.**
All that is asked about the table of a column is asked about one identifier. Its name is the
qualified name of the column exactly when the schema of the resource is not the empty one: that one
leaves a dot before the name. -/
theorem asked_as_named_iff (adapter : CatalogAdapter (StateM σ))
    (dotted : dialect.qualification = .schemaDotTable) (resource : Resource)
    (resolver : Resolver) (hd : drivers[i]? = some d) (s : σ) :
    ∃ c t, ((assemble adapter dialect resource resolver drivers).run s).1.columns[i]? = some c ∧
      c.tableName = resolver.tableOf d.name ∧ t.table = c.tableName ∧
      .columns t ∈ asked adapter dialect resource resolver drivers s ∧
      (∀ q ∈ asked adapter dialect resource resolver drivers s,
        q.table.table = c.tableName → q.table = t) ∧
      (t.qualifiedName = c.qualifiedTableName ↔ resource.database ≠ some "") ∧
      (resource.database = some "" →
        c.qualifiedTableName = c.tableName ∧ t.qualifiedName = "." ++ c.tableName) := by
  obtain ⟨c, hc, name, qualifiedName⟩ := names_of_column adapter dialect resource resolver s hd
  refine ⟨c, ⟨resource.database, c.tableName⟩, hc, name, rfl, ?_, ?_, ?_, ?_⟩
  · rw [name]
    exact columns_mem_asked adapter dialect resource resolver hd s
  · intro q hq same
    obtain ⟨_, -, about⟩ := table_of_mem_asked hq
    rw [about] at same ⊢
    exact congrArg (TableIdentifier.mk resource.database) same
  · rw [qualifiedName, ← name]
    exact TableIdentifier.qualifiedName_eq_iff dotted resource.database c.tableName
  · intro empty
    rw [qualifiedName, empty, ← name]
    exact ⟨Dialect.qualifiedTableName_of_empty dotted _, TableIdentifier.qualifiedName_of_empty _⟩

/-- A resource that gives an empty schema. -/
def schemaless : Resource where
  name := "films"
  query := "SELECT f.title FROM film f"
  table := "film"
  database := some ""

/-- The columns of the films are said to be those of `film`, while the catalog is asked about a
table that is written `.film`. -/
theorem asked_as_named_schemaless :
    let resolver := Resolver.ofResource .postgres schemaless
    ∃ c t, ((assemble filmStore.counted .postgres schemaless resolver
        [title]).run 0).1.columns[0]? = some c ∧
      .columns t ∈ asked filmStore.counted .postgres schemaless resolver [title] 0 ∧
      c.qualifiedTableName = "film" ∧ t.qualifiedName = ".film" := by
  intro resolver
  have dotted : Dialect.postgres.qualification = .schemaDotTable := rfl
  have first : [title][0]? = some title := rfl
  obtain ⟨c, t, hc, name, -, about, -, -, differ⟩ :=
    asked_as_named_iff filmStore.counted dotted schemaless resolver first 0
  have table : resolver.tableOf title.name = "film" := by
    decide +kernel
  obtain ⟨plain, dotFirst⟩ := differ rfl
  rw [name, table] at plain dotFirst
  exact ⟨c, t, hc, about, plain, dotFirst⟩

end Assembly

end ColumnOrigin
