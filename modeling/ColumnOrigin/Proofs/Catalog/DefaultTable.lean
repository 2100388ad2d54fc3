import ColumnOrigin.Proofs.Catalog.Questions
import ColumnOrigin.Proofs.Query.Folded

/-!
# The default table next to the tables of the query

The tables of a query are known by their folded names. The default table keeps the name that the
resource gives it, in whatever spelling, as catalogs are asked about it. A table that is both has
one name exactly when that spelling is the folded one (`one_name_iff`).
-/

namespace ColumnOrigin

theorem Dialect.qualifiedTableName_inj (dialect : Dialect) (schema : Option String)
    {table other : String} :
    dialect.qualifiedTableName schema table = dialect.qualifiedTableName schema other ↔
      table = other := by
  refine ⟨fun same => ?_, congrArg _⟩
  simp only [qualifiedTableName] at same
  split at same
  · split at same
    · exact same
    · exact String.append_right_inj _ |>.mp same
  · exact same

namespace Resolver
variable {dialect : Dialect} {resource : Resource} {column origin : String}

theorem fold_tableOf_of_origin
    (qualified : (ofResource dialect resource).origins[dialect.fold column]? = some origin) :
    dialect.fold ((ofResource dialect resource).tableOf column) =
      (ofResource dialect resource).tableOf column := by
  have policy := folding_ofResource dialect resource
  rw [Dialect.fold, ← policy] at qualified ⊢
  exact (isFolded_ofResource dialect resource).isFolded_tableOf qualified

/-- Where the default table is folded, a table that folds to it is called like it. -/
theorem tableOf_eq_default (folded : dialect.fold resource.table = resource.table)
    (same : dialect.fold ((ofResource dialect resource).tableOf column) =
      dialect.fold resource.table) :
    (ofResource dialect resource).tableOf column = resource.table := by
  cases found : (ofResource dialect resource).origins[dialect.fold column]? with
  | none => exact tableOf_of_no_origin found
  | some origin =>
    calc (ofResource dialect resource).tableOf column
        = dialect.fold ((ofResource dialect resource).tableOf column) :=
          (fold_tableOf_of_origin found).symm
      _ = dialect.fold resource.table := same
      _ = resource.table := folded

end Resolver

namespace Assembly

section
variable {σ : Type} (adapter : CatalogAdapter (StateM σ)) (dialect : Dialect)
variable (resource : Resource) (resolver : Resolver) (s : σ) {drivers : List DriverColumn}

/-- For each column of the driver one comes out, as the driver and its attribution give it but for
the catalog facts. -/
theorem exists_column {i : Nat} {d : DriverColumn} (hd : drivers[i]? = some d) :
    ∃ c, ((assemble adapter dialect resource resolver drivers).run s).1.columns[i]? = some c ∧
      c.bare = attributed dialect resource (resolver.tableOf d.name) (i + 1) d := by
  obtain ⟨answer, answered⟩ : ∃ answer, (resolver.tableOf d.name, answer) ∈
      answersOf adapter dialect resource resolver drivers s :=
    exists_answer (Resolver.mem_tablesOf hd)
  exact ⟨_, column_run hd answered, bare_described _ (i + 1) d answer⟩

theorem bare_of_column {i : Nat} {d : DriverColumn} {c : Column} (hd : drivers[i]? = some d)
    (hc : ((assemble adapter dialect resource resolver drivers).run s).1.columns[i]? = some c) :
    c.bare = attributed dialect resource (resolver.tableOf d.name) (i + 1) d := by
  obtain ⟨c', here, bare⟩ := exists_column adapter dialect resource resolver s hd
  obtain rfl := Option.some.inj (hc.symm.trans here)
  exact bare

/-- No column comes out that is none of the driver's. -/
theorem exists_driver {i : Nat} {c : Column}
    (hc : ((assemble adapter dialect resource resolver drivers).run s).1.columns[i]? = some c) :
    ∃ d, drivers[i]? = some d := by
  have within := (List.getElem?_eq_some_iff.mp hc).1
  rw [length_run] at within
  exact ⟨drivers[i], List.getElem?_eq_getElem within⟩

/-- Each column has both names of the table that it is attributed to. -/
theorem names_of_column {i : Nat} {d : DriverColumn} (hd : drivers[i]? = some d) :
    ∃ c, ((assemble adapter dialect resource resolver drivers).run s).1.columns[i]? = some c ∧
      c.tableName = resolver.tableOf d.name ∧
      c.qualifiedTableName =
        dialect.qualifiedTableName resource.database (resolver.tableOf d.name) := by
  obtain ⟨c, here, bare⟩ := exists_column adapter dialect resource resolver s hd
  exact ⟨c, here, congrArg Column.tableName bare, congrArg Column.qualifiedTableName bare⟩

theorem names_of_mem {c : Column}
    (hc : c ∈ ((assemble adapter dialect resource resolver drivers).run s).1.columns) :
    ∃ d ∈ drivers, c.tableName = resolver.tableOf d.name ∧
      c.qualifiedTableName =
        dialect.qualifiedTableName resource.database (resolver.tableOf d.name) := by
  obtain ⟨i, here⟩ := List.mem_iff_getElem?.mp hc
  obtain ⟨d, hd⟩ := exists_driver adapter dialect resource resolver s here
  have bare := bare_of_column adapter dialect resource resolver s hd here
  exact ⟨d, List.mem_of_getElem? hd, congrArg Column.tableName bare,
    congrArg Column.qualifiedTableName bare⟩

end

section
variable {σ : Type} {dialect : Dialect} {resource : Resource} {drivers : List DriverColumn}
variable {i j : Nat} {x y : DriverColumn} {origin : String}

/-- **One table, one name.** A qualifier leads the column `x` to the default table, and `y` falls
back to it. The two are given one name for it exactly when the resource spells its default table in
folded form. Exactly then the catalog is asked about it under one identifier, and exactly then all
its columns have one qualified name, of which the writable tables hold no second copy. -/
theorem one_name_iff (adapter : CatalogAdapter (StateM σ)) (hx : drivers[i]? = some x)
    (hy : drivers[j]? = some y)
    (qualified : (Resolver.ofResource dialect resource).origins[dialect.fold x.name]? =
      some origin)
    (unqualified : (Resolver.ofResource dialect resource).origins[dialect.fold y.name]? = none)
    (same : dialect.fold ((Resolver.ofResource dialect resource).tableOf x.name) =
      dialect.fold resource.table) (s : σ) :
    let resolver := Resolver.ofResource dialect resource
    let run := ((assemble adapter dialect resource resolver drivers).run s).1
    let questions := asked adapter dialect resource resolver drivers s
    (∃ c c', run.columns[i]? = some c ∧ run.columns[j]? = some c' ∧
      c.tableName = resolver.tableOf x.name ∧ c'.tableName = resource.table ∧
      (c.tableName = c'.tableName ↔ dialect.fold resource.table = resource.table)) ∧
    ((∀ q ∈ questions, dialect.fold q.table.table = dialect.fold resource.table →
      q.table = ⟨resource.database, resource.table⟩) ↔
      dialect.fold resource.table = resource.table) ∧
    questions.Nodup ∧
    ((∀ c ∈ run.columns, dialect.fold c.tableName = dialect.fold resource.table →
      c.qualifiedTableName = dialect.qualifiedTableName resource.database resource.table) ↔
      dialect.fold resource.table = resource.table) ∧
    run.writableTables.Nodup := by
  intro resolver run questions
  have table : resolver.tableOf x.name = dialect.fold resource.table :=
    (Resolver.fold_tableOf_of_origin qualified).symm.trans same
  have default : resolver.tableOf y.name = resource.table :=
    Resolver.tableOf_of_no_origin unqualified
  obtain ⟨c, hc, name, qualifiedName⟩ := names_of_column adapter dialect resource resolver s hx
  obtain ⟨c', hc', name', -⟩ := names_of_column adapter dialect resource resolver s hy
  refine ⟨⟨c, c', hc, hc', name, name'.trans default, ?_⟩, ⟨?_, ?_⟩, ?_, ⟨?_, ?_⟩, ?_⟩
  · rw [name, name', table, default]
  · -- What is asked about the table of `x` gives the name away, whatever the answers are.
    intro one
    have asked := one _ (columns_mem_asked adapter dialect resource resolver hx s) same
    exact table.symm.trans (congrArg TableIdentifier.table asked)
  · rintro folded q hq alike
    obtain ⟨d, -, about⟩ := table_of_mem_asked hq
    rw [about] at alike ⊢
    rw [Resolver.tableOf_eq_default folded alike]
  · exact nodup_asked adapter dialect resource resolver drivers s
  · intro one
    have alike : dialect.fold c.tableName = dialect.fold resource.table := name ▸ same
    have equal := one c (List.mem_of_getElem? hc) alike
    rw [qualifiedName, Dialect.qualifiedTableName_inj] at equal
    exact table.symm.trans equal
  · rintro folded c hc alike
    obtain ⟨d, -, called, both⟩ := names_of_mem adapter dialect resource resolver s hc
    rw [called] at alike
    rw [both, Resolver.tableOf_eq_default folded alike]
  · exact nodup_eraseDups _

end

/-! A resource whose default table is in its query too, with the default in either spelling. -/

def titlesQuery : String := "SELECT f.title, 1 AS one FROM film f"

def titles (table : String) : Resource where
  name := "titles"
  query := titlesQuery
  table := table
  database := some "SAKILA"

def titlesShape : Shape :=
  ⟨[.base "film" (some "f")], [⟨"title", some "f"⟩, ⟨"one", none⟩], []⟩

theorem shapeOf_titles : Resolver.shapeOf .oracle titlesQuery = .ok titlesShape := by
  decide +kernel

theorem ofResource_titles (table : String) :
    Resolver.ofResource .oracle (titles table) = .ofShape (titles table) .upper titlesShape :=
  Resolver.ofResource_of_shape shapeOf_titles

def sakila : CatalogStore :=
  CatalogStore.empty.addTable ⟨some "SAKILA", "FILM"⟩ ⟨[⟨"TITLE", "VARCHAR2", none, none⟩], []⟩

def capitalTitle : DriverColumn := ⟨"TITLE", "TITLE", "VARCHAR2", false⟩

def computed : DriverColumn := ⟨"ONE", "ONE", "NUMBER", false⟩

/-- In capitals, as the database folds names, the default table is the film table. -/
theorem one_name_capitals :
    let run := ((assemble sakila.counted .oracle (titles "FILM")
      (.ofResource .oracle (titles "FILM")) [capitalTitle, computed]).run 0).1
    ∃ c c', run.columns[0]? = some c ∧ run.columns[1]? = some c' ∧
      c.tableName = "FILM" ∧ c.tableName = c'.tableName := by
  have first : [capitalTitle, computed][0]? = some capitalTitle := rfl
  have second : [capitalTitle, computed][1]? = some computed := rfl
  have qualified : (Resolver.ofResource .oracle (titles "FILM")).origins[
      Dialect.oracle.fold capitalTitle.name]? = some "F" := by
    rw [ofResource_titles]
    decide +kernel
  have unqualified : (Resolver.ofResource .oracle (titles "FILM")).origins[
      Dialect.oracle.fold computed.name]? = none := by
    rw [ofResource_titles]
    decide +kernel
  have table : (Resolver.ofResource .oracle (titles "FILM")).tableOf capitalTitle.name =
      "FILM" := by
    rw [ofResource_titles]
    decide +kernel
  have folded : Dialect.oracle.fold (titles "FILM").table = (titles "FILM").table := by
    decide +kernel
  obtain ⟨⟨c, c', hc, hc', name, -, same⟩, -⟩ :=
    one_name_iff sakila.counted first second qualified unqualified (congrArg _ table) 0
  exact ⟨c, c', hc, hc', name.trans table, same.mpr folded⟩

/-- In small letters it is not: the film table is asked about under two names, of which the catalog
knows one, and both are listed as tables to write. -/
theorem two_names_smalls :
    let resolver := Resolver.ofResource .oracle (titles "film")
    let drivers := [capitalTitle, computed]
    let run := ((assemble sakila.counted .oracle (titles "film") resolver drivers).run 0).1
    resolver.origins[Dialect.oracle.fold "TITLE"]? = some "F" ∧
    resolver.origins[Dialect.oracle.fold "ONE"]? = none ∧
    Dialect.oracle.fold "film" = Dialect.oracle.fold (resolver.tableOf "TITLE") ∧
    run.columns.map (·.tableName) = ["FILM", "film"] ∧
    asked sakila.counted .oracle (titles "film") resolver drivers 0 =
      [.columns ⟨some "SAKILA", "FILM"⟩, .primaryKeys ⟨some "SAKILA", "FILM"⟩,
        .columns ⟨some "SAKILA", "film"⟩] ∧
    run.writableTables = ["FILM", "film"] := by
  intro resolver drivers run
  simp only [run, resolver, ofResource_titles]
  decide +kernel

end Assembly

end ColumnOrigin
