import ColumnOrigin.Proofs.Catalog.Steady
import ColumnOrigin.Proofs.Catalog.Writes

/-!
# What is said about one table stays with it

Two catalogs that answer alike about all tables but one are run on the same columns. The runs are
related step by step, whatever each is told about that table (`fetch_alike`), so they differ only in
the catalog facts of its columns and in the diagnostics about it (`assemble_isolated`).
-/

namespace ColumnOrigin

/-- The adapters answer alike about all tables of the schema but `t`, as long as their states are
related. Questions about the other tables keep the states related, and so do those about `t`, which
each of the two may be asked when the other is not. -/
structure CatalogAdapter.AlikeBut {σ τ : Type} (schema : Option String) (t : String)
    (left : CatalogAdapter (StateM σ)) (right : CatalogAdapter (StateM τ))
    (Related : σ → τ → Prop) : Prop where
  columns : ∀ table, table ≠ t → ∀ s s', Related s s' →
    ((left.fetchColumns ⟨schema, table⟩).run s).1 =
      ((right.fetchColumns ⟨schema, table⟩).run s').1 ∧
    Related ((left.fetchColumns ⟨schema, table⟩).run s).2
      ((right.fetchColumns ⟨schema, table⟩).run s').2
  keys : ∀ table, table ≠ t → ∀ s s', Related s s' →
    ((left.fetchPrimaryKeys ⟨schema, table⟩).run s).1 =
      ((right.fetchPrimaryKeys ⟨schema, table⟩).run s').1 ∧
    Related ((left.fetchPrimaryKeys ⟨schema, table⟩).run s).2
      ((right.fetchPrimaryKeys ⟨schema, table⟩).run s').2
  left_columns : ∀ s s', Related s s' → Related ((left.fetchColumns ⟨schema, t⟩).run s).2 s'
  left_keys : ∀ s s', Related s s' → Related ((left.fetchPrimaryKeys ⟨schema, t⟩).run s).2 s'
  right_columns : ∀ s s', Related s s' → Related s ((right.fetchColumns ⟨schema, t⟩).run s').2
  right_keys : ∀ s s', Related s s' → Related s ((right.fetchPrimaryKeys ⟨schema, t⟩).run s').2

namespace Assembly
variable {σ τ : Type} {dialect : Dialect} {resource : Resource} {resolver : Resolver}
variable {schema : Option String} {t : String} {Related : σ → τ → Prop} {s : σ} {s' : τ}
variable {left : CatalogAdapter (StateM σ)} {right : CatalogAdapter (StateM τ)}

/-! ## One table -/

/-- What both questions about a table keep, asking about it keeps. -/
theorem fetch_keeps {adapter : CatalogAdapter (StateM σ)} {t : TableIdentifier} {P : σ → Prop}
    (columns : ∀ s, P s → P ((adapter.fetchColumns t).run s).2)
    (keys : ∀ s, P s → P ((adapter.fetchPrimaryKeys t).run s).2) (h : P s) :
    P ((fetch adapter dialect t).run s).2 := by
  have after := columns s h
  rcases first : (adapter.fetchColumns t).run s with ⟨e | rows, s₁⟩
  · rw [run_fetch_of_no_columns dialect first]
    rwa [first] at after
  · rw [run_fetch_of_columns dialect first rfl]
    rw [first] at after
    exact keys s₁ after

/-- Another table is answered alike. -/
theorem fetch_of_other (alike : left.AlikeBut schema t right Related) {table : String}
    (other : table ≠ t) (related : Related s s') :
    ((fetch left dialect ⟨schema, table⟩).run s).1 =
      ((fetch right dialect ⟨schema, table⟩).run s').1 ∧
    Related ((fetch left dialect ⟨schema, table⟩).run s).2
      ((fetch right dialect ⟨schema, table⟩).run s').2 := by
  obtain ⟨same, next⟩ := alike.columns table other s s' related
  rcases first : (left.fetchColumns ⟨schema, table⟩).run s with ⟨answer, s₁⟩
  rcases first' : (right.fetchColumns ⟨schema, table⟩).run s' with ⟨answer', s₁'⟩
  rw [first, first'] at same next
  change answer = answer' at same
  subst same
  cases answer with
  | error e =>
    rw [run_fetch_of_no_columns dialect first, run_fetch_of_no_columns dialect first']
    exact ⟨rfl, next⟩
  | ok rows =>
    obtain ⟨sameKeys, last⟩ := alike.keys table other s₁ s₁' next
    rw [run_fetch_of_columns dialect first rfl, run_fetch_of_columns dialect first' rfl]
    exact ⟨congrArg (Except.map _) sameKeys, last⟩

/-- **One step of two runs.** Asking both about a table leaves them related, with one answer if it
is another table. -/
theorem fetch_alike (dialect : Dialect) (alike : left.AlikeBut schema t right Related)
    (table : String) (related : Related s s') :
    (table ≠ t → ((fetch left dialect ⟨schema, table⟩).run s).1 =
      ((fetch right dialect ⟨schema, table⟩).run s').1) ∧
    Related ((fetch left dialect ⟨schema, table⟩).run s).2
      ((fetch right dialect ⟨schema, table⟩).run s').2 := by
  by_cases about : table = t
  · subst about
    refine ⟨fun other => absurd rfl other, ?_⟩
    have leftDone : Related ((fetch left dialect ⟨schema, table⟩).run s).2 s' :=
      fetch_keeps (P := (Related · s')) (fun s => alike.left_columns s s')
        (fun s => alike.left_keys s s') related
    exact fetch_keeps (fun s' => alike.right_columns _ s') (fun s' => alike.right_keys _ s')
      leftDone
  · obtain ⟨same, next⟩ := fetch_of_other alike about related
    exact ⟨fun _ => same, next⟩

/-! ## The runs -/

/-- The answers of two runs, table by table. -/
theorem mapM_alike (dialect : Dialect) (alike : left.AlikeBut schema t right Related)
    (tables : List String) (related : Related s s') :
    List.Forall₂ (fun e e' => e.1 = e'.1 ∧ (e.1 ≠ t → e = e'))
      (tables.zip ((tables.mapM fun table => fetch left dialect ⟨schema, table⟩).run s).1)
      (tables.zip ((tables.mapM fun table => fetch right dialect ⟨schema, table⟩).run s').1) := by
  induction tables generalizing s s' with
  | nil => exact .nil
  | cons table rest ih =>
    obtain ⟨same, next⟩ := fetch_alike dialect alike table related
    rw [List.mapM_cons, List.mapM_cons]
    exact .cons ⟨rfl, fun other => congrArg (Prod.mk table) (same other)⟩ (ih next)

section
variable {α β γ : Type} {R : α → β → Prop} {these : List α} {those : List β}

theorem exists_of_forall₂ (h : List.Forall₂ R these those) {a : α} (member : a ∈ these) :
    ∃ b ∈ those, R a b := by
  induction h with
  | nil => cases member
  | @cons _ b _ _ here _ ih =>
    obtain rfl | later := List.mem_cons.mp member
    · exact ⟨b, List.mem_cons_self, here⟩
    · obtain ⟨b, hb, related⟩ := ih later
      exact ⟨b, List.mem_cons_of_mem _ hb, related⟩

theorem filterMap_eq_of_forall₂ {f : α → Option γ} {g : β → Option γ}
    (same : ∀ a b, R a b → f a = g b) (h : List.Forall₂ R these those) :
    these.filterMap f = those.filterMap g := by
  induction h with
  | nil => rfl
  | cons here _ ih => rw [List.filterMap_cons, List.filterMap_cons, same _ _ here, ih]

end

/-- **What a catalog says about one table stays with that table.** Two catalogs that answer alike
about all other tables give the same columns, but for the catalog facts of the columns of that
table, and the same diagnostics in the same order, but for those about that table. -/
theorem assemble_isolated (dialect : Dialect) {resource : Resource} (resolver : Resolver)
    (alike : left.AlikeBut resource.database t right Related) (drivers : List DriverColumn)
    (s : σ) (s' : τ) (related : Related s s') :
    let one := ((assemble left dialect resource resolver drivers).run s).1
    let other := ((assemble right dialect resource resolver drivers).run s').1
    let elsewhere (d : Diagnostic) : Bool :=
      d.subject ≠ some (TableIdentifier.mk resource.database t).qualifiedName
    one.columns.length = other.columns.length ∧
    (∀ (i : Nat) (d : DriverColumn), drivers[i]? = some d → ∃ c c' : Column,
      one.columns[i]? = some c ∧ other.columns[i]? = some c' ∧
      (resolver.tableOf d.name ≠ t → c = c') ∧ c.bare = c'.bare) ∧
    one.diagnostics.filter elsewhere = other.diagnostics.filter elsewhere := by
  intro one other elsewhere
  have answers : List.Forall₂ (fun e e' => e.1 = e'.1 ∧ (e.1 ≠ t → e = e'))
      (answersOf left dialect resource resolver drivers s)
      (answersOf right dialect resource resolver drivers s') :=
    mapM_alike dialect alike (resolver.tablesOf drivers) related
  refine ⟨length_run.trans length_run.symm, ?_, ?_⟩
  · intro i d hd
    obtain ⟨answer, h⟩ := exists_answer (Resolver.mem_tablesOf hd)
    obtain ⟨⟨_, answer'⟩, h', rfl, same⟩ := exists_of_forall₂ answers h
    refine ⟨_, _, column_run hd h, column_run hd h', ?_, ?_⟩
    · intro apart
      obtain ⟨⟩ := same apart
      rfl
    · rw [bare_described, bare_described]
  · simp only [one, other, diagnostics_run, List.filter_filterMap]
    refine filterMap_eq_of_forall₂ ?_ answers
    rintro ⟨table, answer⟩ ⟨_, answer'⟩ ⟨rfl, same⟩
    by_cases about : table = t
    · subst about
      have silent (failed : Answer) : ((error? failed).map
          (fetchFailed resource.name ⟨resource.database, table⟩)).filter elsewhere = none := by
        cases error? failed <;> simp [elsewhere, fetchFailed]
      exact (silent answer).trans (silent answer').symm
    · obtain ⟨⟩ := same about
      rfl

theorem qualifiedName_inj {schema : Option String} {table other : String} :
    (TableIdentifier.mk schema table).qualifiedName =
      (TableIdentifier.mk schema other).qualifiedName ↔ table = other := by
  cases schema <;> simp [TableIdentifier.qualifiedName]

/-- Stores that differ in an error about one table answer alike about the others. -/
theorem alikeBut_addError (store : CatalogStore) (schema : Option String) (t : String)
    (e : FetchError) :
    store.counted.AlikeBut schema t (store.addError ⟨schema, t⟩ e).counted fun _ _ => True := by
  have same {table : String} (other : table ≠ t) :
      store.lookup ⟨schema, table⟩ = (store.addError ⟨schema, t⟩ e).lookup ⟨schema, table⟩ := by
    have apart : (StoreWrite.error ⟨schema, t⟩ e).target.qualifiedName ≠
        (TableIdentifier.mk schema table).qualifiedName := mt qualifiedName_inj.mp other.symm
    exact (CatalogStore.lookup_apply_of_apart store apart).symm
  constructor
  case columns =>
    intro table other _ _ _
    exact ⟨congrArg (Except.map _) (same other), trivial⟩
  case keys =>
    intro table other _ _ _
    exact ⟨congrArg (Except.map _) (same other), trivial⟩
  all_goals exact fun _ _ _ => trivial

/-- Who may read the films decides about their key and about nothing else. -/
theorem assemble_isolated_films :
    let refusing := filmStore.addError ⟨films.database, "film"⟩ (.permissionDenied "film")
    let columns (store : CatalogStore) := ((assemble store.counted .postgres films
      (.ofResource .postgres films) [filmId, language]).run 0).1.columns
    filmStore.counted.AlikeBut films.database "film" refusing.counted (fun _ _ => True) ∧
    (∃ c c', (columns filmStore)[0]? = some c ∧ (columns refusing)[0]? = some c' ∧
      c.primaryKey = true ∧ c'.primaryKey = false ∧ c.bare = c'.bare) ∧
    ∃ c, (columns filmStore)[1]? = some c ∧ (columns refusing)[1]? = some c := by
  intro refusing columns
  have alike : filmStore.counted.AlikeBut films.database "film" refusing.counted
      (fun _ _ => True) := alikeBut_addError filmStore films.database "film" _
  obtain ⟨-, each, -⟩ := assemble_isolated .postgres (.ofResource .postgres films) alike
    [filmId, language] 0 0 trivial
  obtain ⟨c, c', hc, hc', -, bare⟩ := each 0 filmId rfl
  obtain ⟨e, e', he, he', same, -⟩ := each 1 language rfl
  have key : c.primaryKey = true := by
    rw [Option.some.inj (hc.symm.trans (film_column filmStore [language]))]
    decide +kernel
  have noKey : c'.primaryKey = false := by
    rw [Option.some.inj (hc'.symm.trans (film_column refusing [language]))]
    decide +kernel
  have elsewhere : (Resolver.ofResource .postgres films).tableOf language.name ≠ "film" :=
    ne_of_eq_of_ne tableOf_language (by decide)
  obtain rfl := same elsewhere
  exact ⟨alike, ⟨c, c', hc, hc', key, noKey, bare⟩, e, he, he'⟩

end Assembly

end ColumnOrigin
