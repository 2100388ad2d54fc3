import ColumnOrigin.Catalog.Assembly
import ColumnOrigin.Proofs.Names
import Mathlib.Data.List.Forall2

/-!
# What a run of assembly learns from the catalog

Assembly asks about a table when its first column comes and stamps each column at once. It might as
well ask about all tables first (`assemble_eq`): each distinct table once, in the order of their
first columns, and the result is a function of the answers (`outcome`). This holds however the
catalog answers, so every result about assembly is one about `outcome` and the answers of the run.
-/

namespace ColumnOrigin

/-- What came of asking about one table. -/
abbrev Answer := Except FetchError TableCatalog

/-- The distinct tables of a result, in the order of their first columns. -/
def Resolver.tablesOf (r : Resolver) (drivers : List DriverColumn) : List String :=
  (drivers.map fun d => r.tableOf d.name).eraseDups

theorem nodup_eraseDups (names : List String) : names.eraseDups.Nodup := by
  generalize size : names.length = n
  induction n using Nat.strongRecOn generalizing names with
  | ind n ih =>
    cases names with
    | nil => exact List.nodup_nil
    | cons name rest =>
      rw [List.eraseDups_cons, List.nodup_cons]
      have fewer : (rest.filter fun other => !other == name).length < n := by
        have := List.length_filter_le (fun other => !other == name) rest
        simp only [List.length_cons] at size
        omega
      refine ⟨?_, ih _ fewer _ rfl⟩
      simp [List.mem_eraseDups]

theorem Resolver.nodup_tablesOf (r : Resolver) (drivers : List DriverColumn) :
    (r.tablesOf drivers).Nodup :=
  nodup_eraseDups _

theorem Resolver.mem_tablesOf {r : Resolver} {drivers : List DriverColumn} {i : Nat}
    {d : DriverColumn} (hd : drivers[i]? = some d) : r.tableOf d.name ∈ r.tablesOf drivers := by
  rw [tablesOf, List.mem_eraseDups]
  exact List.mem_map_of_mem (List.mem_of_getElem? hd)

namespace Assembly

/-! ## One answer and one column -/

def error? : Answer → Option FetchError
  | .error e => some e
  | .ok _ => none

section
variable (resource : Resource) (t : TableIdentifier) (a : Assembly) (answer : Answer)

theorem catalogs_learn :
    (a.learn resource t answer).catalogs = a.catalogs.insert t.table answer.toOption := by
  cases answer <;> rfl

theorem columns_learn : (a.learn resource t answer).result.columns = a.result.columns := by
  cases answer <;> rfl

theorem diagnostics_learn :
    (a.learn resource t answer).result.diagnostics =
      a.result.diagnostics ++ ((error? answer).map (fetchFailed resource.name t)).toList := by
  cases answer with
  | error e => rfl
  | ok catalog => exact (List.append_nil _).symm

end

section
variable (dialect : Dialect) (resource : Resource) (resolver : Resolver)

/-- The assembly with the next column, as far as the catalogs are known. -/
def push (a : Assembly) (d : DriverColumn) : Assembly :=
  let column :=
    attributed dialect resource (resolver.tableOf d.name) (a.result.columns.length + 1) d
  { a with result := { a.result with
    columns := a.result.columns ++ [stamped dialect a column] } }

/-- The assembly with the answers about several tables. -/
def learnAll (answers : List (String × Answer)) (a : Assembly) : Assembly :=
  answers.foldl (fun a e => a.learn resource ⟨resource.database, e.1⟩ e.2) a

/-- The tables that are still to be asked about. -/
def unknown (drivers : List DriverColumn) (a : Assembly) : List String :=
  ((drivers.map fun d => resolver.tableOf d.name).filter (· ∉ a.catalogs)).eraseDups

variable {dialect resource resolver} {a : Assembly} {d : DriverColumn}

/-- An answer about another table comes to the same before and after the column. -/
theorem learn_push {t : TableIdentifier} (other : t.table ≠ resolver.tableOf d.name)
    (answer : Answer) :
    (a.push dialect resource resolver d).learn resource t answer =
      (a.learn resource t answer).push dialect resource resolver d := by
  have same (number : Nat) :
      stamped dialect (a.learn resource t answer)
        (attributed dialect resource (resolver.tableOf d.name) number d) =
      stamped dialect a (attributed dialect resource (resolver.tableOf d.name) number d) := by
    simp only [stamped, catalogs_learn, attributed, NameMap.getElem?_insert, other, if_false]
  simp only [push, columns_learn, same]
  cases answer <;> rfl

theorem learnAll_push {answers : List (String × Answer)}
    (other : ∀ e ∈ answers, e.1 ≠ resolver.tableOf d.name) :
    (a.push dialect resource resolver d).learnAll resource answers =
      (a.learnAll resource answers).push dialect resource resolver d := by
  induction answers generalizing a with
  | nil => rfl
  | cons e rest ih =>
    obtain ⟨here, later⟩ := List.forall_mem_cons.mp other
    simp only [learnAll, List.foldl_cons] at ih ⊢
    rw [learn_push here, ih later]

theorem unknown_push (drivers : List DriverColumn) :
    (a.push dialect resource resolver d).unknown resolver drivers =
      a.unknown resolver drivers :=
  rfl

theorem unknown_cons_of_known (known : resolver.tableOf d.name ∈ a.catalogs)
    (rest : List DriverColumn) :
    a.unknown resolver (d :: rest) = a.unknown resolver rest := by
  simp [unknown, known]

/-- What is left to ask after a table does not depend on the answer about it. -/
theorem unknown_cons_of_new (resource : Resource) (new : resolver.tableOf d.name ∉ a.catalogs)
    (rest : List DriverColumn) :
    ∃ later, a.unknown resolver (d :: rest) = resolver.tableOf d.name :: later ∧
      ∀ answer : Answer,
        (a.learn resource ⟨resource.database, resolver.tableOf d.name⟩ answer).unknown
          resolver rest = later := by
  refine ⟨((rest.map fun d => resolver.tableOf d.name).filter fun table =>
    !table == resolver.tableOf d.name && decide (table ∉ a.catalogs)).eraseDups, ?_, ?_⟩
  · simp only [unknown, List.map_cons, List.filter_cons, new, not_false_eq_true, decide_true,
      if_true, List.eraseDups_cons, List.filter_filter]
  · intro answer
    simp only [unknown, catalogs_learn, Std.ExtTreeMap.mem_insert, Std.compare_eq_iff_eq]
    congr 2
    funext table
    rw [Bool.eq_iff_iff]
    simp [eq_comm (a := table)]

theorem not_known_of_mem_unknown {drivers : List DriverColumn} {table : String}
    (h : table ∈ a.unknown resolver drivers) : table ∉ a.catalogs := by
  rw [unknown, List.mem_eraseDups] at h
  exact of_decide_eq_true (List.mem_filter.mp h).2

end

/-! ## The run -/

section
variable {m : Type → Type} [Monad m] [LawfulMonad m]
variable (adapter : CatalogAdapter m) (dialect : Dialect) (resource : Resource)
variable (resolver : Resolver)

theorem add_of_known {a : Assembly} {d : DriverColumn}
    (known : resolver.tableOf d.name ∈ a.catalogs) :
    add adapter dialect resource resolver a d = pure (a.push dialect resource resolver d) := by
  simp only [add, consult, Std.ExtTreeMap.contains_iff_mem, known, if_true, pure_bind, push]

theorem add_of_new {a : Assembly} {d : DriverColumn}
    (new : resolver.tableOf d.name ∉ a.catalogs) :
    add adapter dialect resource resolver a d = (do
      let answer ← fetch adapter dialect ⟨resource.database, resolver.tableOf d.name⟩
      pure ((a.learn resource ⟨resource.database, resolver.tableOf d.name⟩ answer).push
        dialect resource resolver d)) := by
  simp only [add, consult, Std.ExtTreeMap.contains_iff_mem, new, if_false, bind_assoc, pure_bind,
    push]

/-- The remaining columns come to the same when all their tables are asked about first. -/
theorem foldlM_add (drivers : List DriverColumn) (a : Assembly) :
    drivers.foldlM (add adapter dialect resource resolver) a = (do
      let answers ← (a.unknown resolver drivers).mapM fun table =>
        fetch adapter dialect ⟨resource.database, table⟩
      pure (drivers.foldl (push dialect resource resolver)
        (a.learnAll resource ((a.unknown resolver drivers).zip answers)))) := by
  induction drivers generalizing a with
  | nil => simp [unknown, learnAll]
  | cons d rest ih =>
    rw [List.foldlM_cons]
    by_cases known : resolver.tableOf d.name ∈ a.catalogs
    · rw [add_of_known adapter dialect resource resolver known, pure_bind, ih, unknown_push,
        unknown_cons_of_known known]
      refine bind_congr fun answers => ?_
      rw [List.foldl_cons, learnAll_push]
      rintro ⟨table, answer⟩ he rfl
      exact not_known_of_mem_unknown (List.of_mem_zip he).1 known
    · obtain ⟨later, cons, same⟩ := unknown_cons_of_new resource known rest
      rw [add_of_new adapter dialect resource resolver known, cons, List.mapM_cons]
      simp only [bind_assoc, pure_bind, ih, unknown_push, same]
      refine bind_congr fun answer => bind_congr fun answers => ?_
      rw [learnAll_push]
      · rfl
      · rintro ⟨table, _⟩ he rfl
        have asked := not_known_of_mem_unknown (same answer ▸ (List.of_mem_zip he).1)
        exact asked (by simp [catalogs_learn])

/-- The result of a run, from the answers about its tables. -/
def outcome (drivers : List DriverColumn) (answers : List (String × Answer)) : Assembled :=
  (drivers.foldl (push dialect resource resolver) (start.learnAll resource answers)).result

/-- **A run asks about each distinct table once, and the answers decide its result.** -/
theorem assemble_eq (drivers : List DriverColumn) :
    assemble adapter dialect resource resolver drivers = (do
      let answers ← (resolver.tablesOf drivers).mapM fun table =>
        fetch adapter dialect ⟨resource.database, table⟩
      pure (outcome dialect resource resolver drivers
        ((resolver.tablesOf drivers).zip answers))) := by
  have all : start.unknown resolver drivers = resolver.tablesOf drivers := by
    rw [unknown, Resolver.tablesOf, List.filter_eq_self.mpr]
    exact fun table _ => decide_eq_true Std.ExtTreeMap.not_mem_empty
  rw [assemble, foldlM_add, all, bind_assoc]
  simp only [pure_bind, outcome]

end

/-! ## The result -/

/-- The column as it comes out, from the answer about its table. -/
def described (dialect : Dialect) (resource : Resource) (table : String) (number : Nat)
    (d : DriverColumn) : Answer → Column
  | .ok catalog => catalog.stamp dialect (attributed dialect resource table number d)
  | .error _ => attributed dialect resource table number d

section
variable {dialect : Dialect} {resource : Resource} {resolver : Resolver} {a : Assembly}

theorem catalog_learnAll_of_other {answers : List (String × Answer)} {table : String}
    (other : table ∉ answers.map Prod.fst) :
    (a.learnAll resource answers).catalogs[table]? = a.catalogs[table]? := by
  induction answers generalizing a with
  | nil => rfl
  | cons e rest ih =>
    simp only [List.map_cons, List.mem_cons, not_or] at other
    simp only [learnAll, List.foldl_cons] at ih ⊢
    rw [ih other.2, catalogs_learn, NameMap.getElem?_insert, if_neg (Ne.symm other.1)]

/-- After distinct tables, each has the catalog that was answered. -/
theorem catalog_learnAll {answers : List (String × Answer)}
    (distinct : (answers.map Prod.fst).Nodup) {table : String} {answer : Answer}
    (h : (table, answer) ∈ answers) :
    (a.learnAll resource answers).catalogs[table]? = some answer.toOption := by
  induction answers generalizing a with
  | nil => cases h
  | cons e rest ih =>
    rw [List.map_cons, List.nodup_cons] at distinct
    obtain rfl | later := List.mem_cons.mp h
    · rw [learnAll, List.foldl_cons, ← learnAll, catalog_learnAll_of_other distinct.1,
        catalogs_learn, NameMap.getElem?_insert, if_pos rfl]
    · exact ih distinct.2 later

theorem columns_learnAll (answers : List (String × Answer)) :
    (a.learnAll resource answers).result.columns = a.result.columns := by
  induction answers generalizing a with
  | nil => rfl
  | cons e rest ih => exact (ih).trans (columns_learn resource _ a e.2)

theorem diagnostics_learnAll (answers : List (String × Answer)) :
    (a.learnAll resource answers).result.diagnostics = a.result.diagnostics ++
      answers.filterMap fun e =>
        (error? e.2).map (fetchFailed resource.name ⟨resource.database, e.1⟩) := by
  induction answers generalizing a with
  | nil => simp [learnAll]
  | cons e rest ih =>
    simp only [learnAll, List.foldl_cons] at ih ⊢
    rw [ih, diagnostics_learn, List.append_assoc]
    cases failure : error? e.2 <;> simp [failure]

theorem result_foldl_push (drivers : List DriverColumn) :
    (drivers.foldl (push dialect resource resolver) a).result =
      { columns := a.result.columns ++ drivers.mapIdx fun i d => stamped dialect a
          (attributed dialect resource (resolver.tableOf d.name)
            (a.result.columns.length + i + 1) d)
        diagnostics := a.result.diagnostics } := by
  induction drivers generalizing a with
  | nil => simp
  | cons d rest ih =>
    have shift (i : Nat) :
        a.result.columns.length + 1 + i + 1 = a.result.columns.length + (i + 1) + 1 := by omega
    rw [List.foldl_cons, ih]
    simp only [push, List.length_append, List.length_singleton, shift, List.mapIdx_cons,
      List.append_assoc, List.singleton_append]
    rfl

theorem diagnostics_outcome (drivers : List DriverColumn) (answers : List (String × Answer)) :
    (outcome dialect resource resolver drivers answers).diagnostics = answers.filterMap fun e =>
      (error? e.2).map (fetchFailed resource.name ⟨resource.database, e.1⟩) := by
  simp only [outcome, result_foldl_push, diagnostics_learnAll]
  rfl

theorem length_outcome (drivers : List DriverColumn) (answers : List (String × Answer)) :
    (outcome dialect resource resolver drivers answers).columns.length = drivers.length := by
  simp [outcome, result_foldl_push, columns_learnAll, start]

theorem column_outcome {drivers : List DriverColumn} {answers : List (String × Answer)}
    (distinct : (answers.map Prod.fst).Nodup) {i : Nat} {d : DriverColumn}
    (hd : drivers[i]? = some d) {answer : Answer}
    (h : (resolver.tableOf d.name, answer) ∈ answers) :
    (outcome dialect resource resolver drivers answers).columns[i]? =
      some (described dialect resource (resolver.tableOf d.name) (i + 1) d answer) := by
  simp only [outcome, result_foldl_push, columns_learnAll, start, List.nil_append,
    List.length_nil, Nat.zero_add, List.getElem?_mapIdx, hd, Option.map_some, stamped, attributed]
  rw [catalog_learnAll distinct h]
  cases answer <;> rfl

end

/-! ## Runs against a catalog with a state

The state stands for whatever the answers depend on, so nothing is said about how a catalog answers
and it may answer the same question in different ways. -/

section
variable {σ : Type} (adapter : CatalogAdapter (StateM σ)) (dialect : Dialect)
variable (resource : Resource) (resolver : Resolver) (drivers : List DriverColumn) (s : σ)

theorem run_fetch_of_no_columns {adapter : CatalogAdapter (StateM σ)} {t : TableIdentifier}
    {s s₁ : σ} {e : FetchError} (columns : (adapter.fetchColumns t).run s = (.error e, s₁)) :
    (fetch adapter dialect t).run s = (.error e, s₁) := by
  rw [fetch, StateT.run_bind, columns]
  rfl

theorem run_fetch_of_columns {adapter : CatalogAdapter (StateM σ)} {t : TableIdentifier}
    {s s₁ s₂ : σ} {rows : List CatalogColumn} {keys : Except FetchError (List String)}
    (columns : (adapter.fetchColumns t).run s = (.ok rows, s₁))
    (primaryKeys : (adapter.fetchPrimaryKeys t).run s₁ = (keys, s₂)) :
    (fetch adapter dialect t).run s = (keys.map (.ofRows dialect rows), s₂) := by
  rw [fetch, StateT.run_bind, columns]
  change (adapter.fetchPrimaryKeys t >>= _).run s₁ = _
  rw [StateT.run_bind, primaryKeys]
  cases keys <;> rfl

/-- The answers that a run gets, by table, in the order of asking. -/
def answersOf : List (String × Answer) :=
  (resolver.tablesOf drivers).zip (((resolver.tablesOf drivers).mapM fun table =>
    fetch adapter dialect ⟨resource.database, table⟩).run s).1

theorem run_assemble :
    ((assemble adapter dialect resource resolver drivers).run s).1 =
      outcome dialect resource resolver drivers
        (answersOf adapter dialect resource resolver drivers s) := by
  rw [assemble_eq]
  rfl

variable {adapter dialect resource resolver drivers s}

theorem forall₂_mapM {α β : Type} (f : α → StateM σ β) (items : List α) (s : σ) :
    List.Forall₂ (fun item result => ∃ s', result = ((f item).run s').1) items
      ((items.mapM f).run s).1 := by
  induction items generalizing s with
  | nil => exact .nil
  | cons item rest ih =>
    rw [List.mapM_cons]
    exact .cons ⟨s, rfl⟩ (ih ((f item).run s).2)

theorem tables_answersOf :
    (answersOf adapter dialect resource resolver drivers s).map Prod.fst =
      resolver.tablesOf drivers := by
  apply List.map_fst_zip
  exact Nat.le_of_eq (forall₂_mapM _ _ s).length_eq

theorem nodup_answersOf :
    ((answersOf adapter dialect resource resolver drivers s).map Prod.fst).Nodup :=
  tables_answersOf ▸ resolver.nodup_tablesOf drivers

theorem answer_of_mem {table : String} {answer : Answer}
    (h : (table, answer) ∈ answersOf adapter dialect resource resolver drivers s) :
    ∃ s', answer = ((fetch adapter dialect ⟨resource.database, table⟩).run s').1 := by
  have all := forall₂_mapM (fun table => fetch adapter dialect ⟨resource.database, table⟩)
    (resolver.tablesOf drivers) s
  exact List.forall₂_zip all h

theorem exists_answer {table : String} (asked : table ∈ resolver.tablesOf drivers) :
    ∃ answer, (table, answer) ∈ answersOf adapter dialect resource resolver drivers s := by
  have named : table ∈ (answersOf adapter dialect resource resolver drivers s).map Prod.fst :=
    tables_answersOf ▸ asked
  obtain ⟨⟨_, answer⟩, h, same⟩ := List.mem_map.mp named
  exact ⟨answer, same ▸ h⟩

theorem length_run :
    ((assemble adapter dialect resource resolver drivers).run s).1.columns.length =
      drivers.length := by
  rw [run_assemble, length_outcome]

/-- **Each column is what the answer about its table makes of it.** -/
theorem column_run {i : Nat} {d : DriverColumn} (hd : drivers[i]? = some d) {answer : Answer}
    (h : (resolver.tableOf d.name, answer) ∈
      answersOf adapter dialect resource resolver drivers s) :
    ((assemble adapter dialect resource resolver drivers).run s).1.columns[i]? =
      some (described dialect resource (resolver.tableOf d.name) (i + 1) d answer) := by
  rw [run_assemble]
  exact column_outcome nodup_answersOf hd h

/-- **Each failed table is reported once**, in the order of asking. -/
theorem diagnostics_run :
    ((assemble adapter dialect resource resolver drivers).run s).1.diagnostics =
      (answersOf adapter dialect resource resolver drivers s).filterMap fun e =>
        (error? e.2).map (fetchFailed resource.name ⟨resource.database, e.1⟩) := by
  rw [run_assemble, diagnostics_outcome]

end

end Assembly

end ColumnOrigin
