import ColumnOrigin.Proofs.Catalog.Transcript
import Mathlib.Data.List.Nodup

/-!
# What a run asks

A logged run writes down its questions, a recorded one also the answers. Both are the same run
(`run_logged`), and its questions are settled by the distinct tables and by which of them tell their
columns: each table is asked about once, in one piece (`questions_of_run`).
-/

namespace ColumnOrigin

/-! ## Two catalogs that are run in step -/

section
variable {m n : Type → Type} [Monad m] [Monad n]

/-- A relation between actions that is kept by returning a value and by going on alike. -/
structure RunsInStep (Related : (α : Type) → m α → n α → Prop) : Prop where
  pure_pure : ∀ {α : Type} (a : α), Related α (pure a) (pure a)
  bind_bind : ∀ {α β : Type} {x : m α} {y : n α} {f : α → m β} {g : α → n β},
    Related α x y → (∀ a, Related β (f a) (g a)) → Related β (x >>= f) (y >>= g)

variable {Related : (α : Type) → m α → n α → Prop}

theorem RunsInStep.foldlM (inStep : RunsInStep Related) {α β : Type} {f : α → β → m α}
    {g : α → β → n α} (step : ∀ a b, Related α (f a b) (g a b)) (items : List β) (a : α) :
    Related α (items.foldlM f a) (items.foldlM g a) := by
  induction items generalizing a with
  | nil => exact inStep.pure_pure a
  | cons b rest ih =>
    rw [List.foldlM_cons, List.foldlM_cons]
    exact inStep.bind_bind (step a b) ih

namespace Assembly
variable {left : CatalogAdapter m} {right : CatalogAdapter n}

theorem fetch_inStep (inStep : RunsInStep Related) (dialect : Dialect) {t : TableIdentifier}
    (columns : Related _ (left.fetchColumns t) (right.fetchColumns t))
    (keys : Related _ (left.fetchPrimaryKeys t) (right.fetchPrimaryKeys t)) :
    Related _ (fetch left dialect t) (fetch right dialect t) := by
  refine inStep.bind_bind columns fun answer => ?_
  cases answer with
  | error e => exact inStep.pure_pure _
  | ok rows =>
    refine inStep.bind_bind keys fun answer => ?_
    cases answer <;> exact inStep.pure_pure _

theorem add_inStep (inStep : RunsInStep Related) (dialect : Dialect) (resource : Resource)
    (resolver : Resolver)
    (columns : ∀ t, Related _ (left.fetchColumns t) (right.fetchColumns t))
    (keys : ∀ t, Related _ (left.fetchPrimaryKeys t) (right.fetchPrimaryKeys t))
    (a : Assembly) (d : DriverColumn) :
    Related _ (add left dialect resource resolver a d)
      (add right dialect resource resolver a d) := by
  refine inStep.bind_bind ?_ fun _ => inStep.pure_pure _
  simp only [consult]
  split
  · exact inStep.pure_pure _
  · exact inStep.bind_bind (fetch_inStep inStep dialect (columns _) (keys _))
      fun _ => inStep.pure_pure _

/-- What relates the answers of two catalogs relates the runs against them. -/
theorem assemble_inStep (inStep : RunsInStep Related) (dialect : Dialect) (resource : Resource)
    (resolver : Resolver)
    (columns : ∀ t, Related _ (left.fetchColumns t) (right.fetchColumns t))
    (keys : ∀ t, Related _ (left.fetchPrimaryKeys t) (right.fetchPrimaryKeys t))
    (drivers : List DriverColumn) :
    Related _ (assemble left dialect resource resolver drivers)
      (assemble right dialect resource resolver drivers) :=
  inStep.bind_bind
    (inStep.foldlM (add_inStep inStep dialect resource resolver columns keys) drivers start)
    fun _ => inStep.pure_pure _

end Assembly

end

/-! ## Questions without their answers -/

/-- The table that a question is about. -/
def Fetch.table : Fetch → TableIdentifier
  | .columns t => t
  | .primaryKeys t => t

namespace Exchange

def question : Exchange → Fetch
  | .columns t _ => .columns t
  | .primaryKeys t _ => .primaryKeys t

/-- What is asked about a table: its columns and, if they come, its keys. -/
def questionsOn (exchanges : List Exchange) (t : TableIdentifier) : List Fetch :=
  match columnsAnswer? exchanges t with
  | some (.ok _) => [.columns t, .primaryKeys t]
  | _ => [.columns t]

theorem table_of_questionsOn {exchanges : List Exchange} {t : TableIdentifier} {q : Fetch}
    (asked : q ∈ questionsOn exchanges t) : q.table = t := by
  simp only [questionsOn] at asked
  split at asked
  · simp only [List.mem_cons, List.not_mem_nil, or_false] at asked
    obtain rfl | rfl := asked <;> rfl
  · rw [List.mem_singleton.mp asked]
    rfl

/-- The columns are asked for in any case. -/
theorem columns_mem_questionsOn (exchanges : List Exchange) (t : TableIdentifier) :
    .columns t ∈ questionsOn exchanges t := by
  simp only [questionsOn]
  split <;> simp

theorem nodup_questionsOn (exchanges : List Exchange) (t : TableIdentifier) :
    (questionsOn exchanges t).Nodup := by
  simp only [questionsOn]
  split <;> simp

section
variable {dialect : Dialect} {t u : TableIdentifier} {told later : List Exchange} {answer : Answer}

theorem questionsOn_append_of_tells (tells : Tells dialect t told answer) :
    questionsOn (told ++ later) t = told.map question := by
  cases tells <;> simp [questionsOn, columnsAnswer?, question]

theorem questionsOn_append_of_other (tells : Tells dialect u told answer) (other : u ≠ t) :
    questionsOn (told ++ later) t = questionsOn later t := by
  cases tells <;> simp [questionsOn, columnsAnswer?, other]

end

/-- Where distinct tables were asked about one after the other, the questions are those about the
first, then those about the second, and so on. -/
theorem questions_flatten {dialect : Dialect} {schema : Option String}
    {answers : List (String × Answer)} {told : List (List Exchange)}
    (tells : List.Forall₂ (fun e said => Tells dialect ⟨schema, e.1⟩ said e.2) answers told)
    (distinct : (answers.map Prod.fst).Nodup) :
    told.flatten.map question =
      (answers.map Prod.fst).flatMap fun table => questionsOn told.flatten ⟨schema, table⟩ := by
  induction tells with
  | nil => rfl
  | @cons e said rest later here _ ih =>
    rw [List.map_cons, List.nodup_cons] at distinct
    rw [List.flatten_cons, List.map_append, List.map_cons, List.flatMap_cons,
      questionsOn_append_of_tells here, ih distinct.2]
    congr 1
    refine List.flatMap_congr fun table member => ?_
    have apart : e.1 ≠ table := by
      rintro rfl
      exact distinct.1 member
    exact (questionsOn_append_of_other here (by simpa using apart)).symm

theorem nodup_flatMap_questionsOn (exchanges : List Exchange) (schema : Option String)
    {tables : List String} (distinct : tables.Nodup) :
    (tables.flatMap fun table => questionsOn exchanges ⟨schema, table⟩).Nodup := by
  rw [List.nodup_flatMap]
  refine ⟨fun table _ => nodup_questionsOn exchanges _, distinct.imp ?_⟩
  intro table other apart q asked askedToo
  have same := (table_of_questionsOn asked).symm.trans (table_of_questionsOn askedToo)
  exact apart (congrArg TableIdentifier.table same)

end Exchange

namespace Assembly
open Exchange
variable {σ : Type} (adapter : CatalogAdapter (StateM σ)) (dialect : Dialect)
variable (resource : Resource) (resolver : Resolver)

/-- The action on the left logs the questions of the exchanges that the one on the right records,
and is the same action otherwise. -/
def Logs (α : Type) (x : StateT (List Fetch) (StateM σ) α)
    (y : StateM (σ × List Exchange) α) : Prop :=
  ∀ (s : σ) (log : List Exchange), (x.run (log.map question)).run s =
    (((y.run (s, log)).1, (y.run (s, log)).2.2.map question), (y.run (s, log)).2.1)

theorem runsInStep_logs : RunsInStep (@Logs σ) where
  pure_pure _ _ _ := rfl
  bind_bind {_ _ x y f g} first next s log := by
    rw [StateT.run_bind, StateT.run_bind, StateT.run_bind, first s log]
    exact next (y.run (s, log)).1 (y.run (s, log)).2.1 (y.run (s, log)).2.2

theorem logs_fetchColumns (t : TableIdentifier) :
    Logs _ (adapter.logged.fetchColumns t) (adapter.recorded.fetchColumns t) := by
  intro s log
  rcases answered : (adapter.fetchColumns t).run s with ⟨answer, s'⟩
  rw [CatalogAdapter.run_recorded_columns answered, List.map_append]
  change ((((adapter.fetchColumns t).run s).1, log.map question ++ [.columns t]),
    ((adapter.fetchColumns t).run s).2) = _
  rw [answered]
  rfl

theorem logs_fetchPrimaryKeys (t : TableIdentifier) :
    Logs _ (adapter.logged.fetchPrimaryKeys t) (adapter.recorded.fetchPrimaryKeys t) := by
  intro s log
  rcases answered : (adapter.fetchPrimaryKeys t).run s with ⟨answer, s'⟩
  rw [CatalogAdapter.run_recorded_primaryKeys answered, List.map_append]
  change ((((adapter.fetchPrimaryKeys t).run s).1, log.map question ++ [.primaryKeys t]),
    ((adapter.fetchPrimaryKeys t).run s).2) = _
  rw [answered]
  rfl

/-- Logging a run and recording it come to the same, but for the answers. -/
theorem run_logged (drivers : List DriverColumn) (s : σ) :
    let recorded := (assemble adapter.recorded dialect resource resolver drivers).run (s, [])
    ((assemble adapter.logged dialect resource resolver drivers).run []).run s =
      ((recorded.1, recorded.2.2.map question), recorded.2.1) :=
  assemble_inStep runsInStep_logs dialect resource resolver (logs_fetchColumns adapter)
    (logs_fetchPrimaryKeys adapter) drivers s []

/-- The questions that a run logs. -/
def asked (drivers : List DriverColumn) (s : σ) : List Fetch :=
  (((assemble adapter.logged dialect resource resolver drivers).run []).run s).1.2

/-- A run asks about its tables, one after the other. -/
theorem asked_eq (drivers : List DriverColumn) (s : σ) :
    let recorded := (assemble adapter.recorded dialect resource resolver drivers).run (s, [])
    asked adapter dialect resource resolver drivers s =
      (resolver.tablesOf drivers).flatMap fun table =>
        questionsOn recorded.2.2 ⟨resource.database, table⟩ := by
  intro recorded
  obtain ⟨told, tells, same⟩ := run_recorded adapter dialect resource resolver drivers s
  have record : recorded.2.2 = told.flatten := congrArg (·.2.2) same
  calc asked adapter dialect resource resolver drivers s
      = recorded.2.2.map question :=
        congrArg (·.1.2) (run_logged adapter dialect resource resolver drivers s)
    _ = told.flatten.map question := by rw [record]
    _ = (resolver.tablesOf drivers).flatMap fun table =>
          questionsOn told.flatten ⟨resource.database, table⟩ := by
        rw [questions_flatten tells nodup_answersOf, tables_answersOf]
    _ = _ := by rw [record]

theorem nodup_asked (drivers : List DriverColumn) (s : σ) :
    (asked adapter dialect resource resolver drivers s).Nodup := by
  rw [asked_eq]
  exact nodup_flatMap_questionsOn _ _ (resolver.nodup_tablesOf drivers)

variable {adapter dialect resource resolver} in
/-- Each question is about the table of a column. -/
theorem table_of_mem_asked {drivers : List DriverColumn} {s : σ} {q : Fetch}
    (h : q ∈ asked adapter dialect resource resolver drivers s) :
    ∃ d ∈ drivers, q.table = ⟨resource.database, resolver.tableOf d.name⟩ := by
  rw [asked_eq] at h
  obtain ⟨table, member, on⟩ := List.mem_flatMap.mp h
  rw [Resolver.tablesOf, List.mem_eraseDups] at member
  obtain ⟨d, hd, rfl⟩ := List.mem_map.mp member
  exact ⟨d, hd, table_of_questionsOn on⟩

theorem columns_mem_asked {drivers : List DriverColumn} {i : Nat} {d : DriverColumn}
    (hd : drivers[i]? = some d) (s : σ) :
    .columns ⟨resource.database, resolver.tableOf d.name⟩ ∈
      asked adapter dialect resource resolver drivers s := by
  rw [asked_eq]
  exact List.mem_flatMap.mpr ⟨_, Resolver.mem_tablesOf hd, columns_mem_questionsOn _ _⟩

/-- **The questions of a run.** However the catalog answers, a run asks about each distinct table
once, in the order of their first columns: for its columns, and then for its keys if and only if
the columns came. No question is asked twice, and writing them down does not change the run. -/
theorem questions_of_run (drivers : List DriverColumn) (s : σ) :
    let run := (assemble adapter dialect resource resolver drivers).run s
    let recorded := (assemble adapter.recorded dialect resource resolver drivers).run (s, [])
    let logged := ((assemble adapter.logged dialect resource resolver drivers).run []).run s
    (logged.1.1, logged.2) = run ∧ (recorded.1, recorded.2.1) = run ∧
    logged.1.2 = recorded.2.2.map question ∧
    logged.1.2 = (resolver.tablesOf drivers).flatMap (fun table =>
      match columnsAnswer? recorded.2.2 ⟨resource.database, table⟩ with
      | some (.ok _) =>
        [.columns ⟨resource.database, table⟩, .primaryKeys ⟨resource.database, table⟩]
      | _ => [.columns ⟨resource.database, table⟩]) ∧
    logged.1.2.Nodup := by
  intro run recorded logged
  obtain ⟨told, -, same⟩ := run_recorded adapter dialect resource resolver drivers s
  have unrecorded : (recorded.1, recorded.2.1) = run := congrArg (fun r => (r.1, r.2.1)) same
  have both : logged = ((recorded.1, recorded.2.2.map question), recorded.2.1) :=
    run_logged adapter dialect resource resolver drivers s
  exact ⟨(congrArg (fun l => (l.1.1, l.2)) both).trans unrecorded, unrecorded,
    congrArg (·.1.2) both, asked_eq adapter dialect resource resolver drivers s,
    nodup_asked adapter dialect resource resolver drivers s⟩

/-- The keys of the films are asked for and refused, and then the films are left alone. -/
example :
    asked keysRefused .postgres films (.ofShape films .lower filmsShape)
        [filmId, language, title] 0 =
      [.columns ⟨some "public", "film"⟩, .primaryKeys ⟨some "public", "film"⟩,
        .columns ⟨some "public", "language"⟩] := by
  decide +kernel

end Assembly

end ColumnOrigin
