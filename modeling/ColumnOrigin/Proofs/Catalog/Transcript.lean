import ColumnOrigin.Proofs.Catalog.Steady

/-!
# What a run is told, and what it reports

A recorded run writes down each question with its answer and is the same run otherwise
(`run_recorded`). So what the catalog said about a table can be read off the record, and the
diagnostics of a run are exactly the failures there (`failed_tables_reported`).
-/

namespace ColumnOrigin

/-- A question to a catalog with its answer. -/
inductive Exchange where
  | columns (table : TableIdentifier) (answer : Except FetchError (List CatalogColumn))
  | primaryKeys (table : TableIdentifier) (answer : Except FetchError (List String))

namespace CatalogAdapter

/-- The adapter that also writes down what it is asked and what it answers, in order. -/
def recorded {σ : Type} (a : CatalogAdapter (StateM σ)) :
    CatalogAdapter (StateM (σ × List Exchange)) where
  fetchColumns t := fun (s, log) =>
    let (answer, s') := (a.fetchColumns t).run s
    (answer, (s', log ++ [.columns t answer]))
  fetchPrimaryKeys t := fun (s, log) =>
    let (answer, s') := (a.fetchPrimaryKeys t).run s
    (answer, (s', log ++ [.primaryKeys t answer]))

section
variable {σ : Type} {a : CatalogAdapter (StateM σ)} {t : TableIdentifier} {s s' : σ}

theorem run_recorded_columns {answer : Except FetchError (List CatalogColumn)}
    (h : (a.fetchColumns t).run s = (answer, s')) (log : List Exchange) :
    (a.recorded.fetchColumns t).run (s, log) = (answer, s', log ++ [.columns t answer]) := by
  change (((a.fetchColumns t).run s).1, ((a.fetchColumns t).run s).2,
    log ++ [.columns t ((a.fetchColumns t).run s).1]) = _
  rw [h]

theorem run_recorded_primaryKeys {answer : Except FetchError (List String)}
    (h : (a.fetchPrimaryKeys t).run s = (answer, s')) (log : List Exchange) :
    (a.recorded.fetchPrimaryKeys t).run (s, log) =
      (answer, s', log ++ [.primaryKeys t answer]) := by
  change (((a.fetchPrimaryKeys t).run s).1, ((a.fetchPrimaryKeys t).run s).2,
    log ++ [.primaryKeys t ((a.fetchPrimaryKeys t).run s).1]) = _
  rw [h]

end

end CatalogAdapter

namespace Exchange

/-- What was first answered about a table's columns. -/
def columnsAnswer? (exchanges : List Exchange) (t : TableIdentifier) :
    Option (Except FetchError (List CatalogColumn)) :=
  exchanges.findSome? fun
    | .columns u answer => if u = t then some answer else none
    | .primaryKeys _ _ => none

/-- What was first answered about a table's keys. -/
def keysAnswer? (exchanges : List Exchange) (t : TableIdentifier) :
    Option (Except FetchError (List String)) :=
  exchanges.findSome? fun
    | .columns _ _ => none
    | .primaryKeys u answer => if u = t then some answer else none

/-- Why a table could not be read: its columns failed, or they came and its keys failed. -/
def failure? (exchanges : List Exchange) (t : TableIdentifier) : Option FetchError :=
  match columnsAnswer? exchanges t, keysAnswer? exchanges t with
  | some (.error e), _ => some e
  | some (.ok _), some (.error e) => some e
  | _, _ => none

/-- The table was asked about to the end: both answers are there, or its columns failed. -/
def Settles (exchanges : List Exchange) (t : TableIdentifier) : Prop :=
  (∃ e, columnsAnswer? exchanges t = some (.error e)) ∨
  ∃ rows keys, columnsAnswer? exchanges t = some (.ok rows) ∧
    keysAnswer? exchanges t = some keys

/-- What is said while a table is asked about, and what comes of it. -/
inductive Tells (dialect : Dialect) (t : TableIdentifier) : List Exchange → Answer → Prop
  | noColumns (e : FetchError) : Tells dialect t [.columns t (.error e)] (.error e)
  | columns (rows : List CatalogColumn) (keys : Except FetchError (List String)) :
      Tells dialect t [.columns t (.ok rows), .primaryKeys t keys]
        (keys.map (.ofRows dialect rows))

/-- What is on record about a table is what its answer was made of. -/
inductive Explains (dialect : Dialect) (exchanges : List Exchange) (t : TableIdentifier) :
    Answer → Prop
  | noColumns (e : FetchError) : columnsAnswer? exchanges t = some (.error e) →
      Explains dialect exchanges t (.error e)
  | columns (rows : List CatalogColumn) (keys : Except FetchError (List String)) :
      columnsAnswer? exchanges t = some (.ok rows) → keysAnswer? exchanges t = some keys →
      Explains dialect exchanges t (keys.map (.ofRows dialect rows))

variable {dialect : Dialect} {t u : TableIdentifier} {told later exchanges : List Exchange}
variable {answer : Answer}

theorem Explains.of_tells (tells : Tells dialect t told answer) :
    Explains dialect (told ++ later) t answer := by
  cases tells with
  | noColumns e => exact .noColumns e (by simp [columnsAnswer?])
  | columns rows keys =>
    exact .columns rows keys (by simp [columnsAnswer?]) (by simp [keysAnswer?])

/-- What is said about another table does not matter. -/
theorem Explains.append_of_other (tells : Tells dialect u told answer) (other : u ≠ t)
    {answer' : Answer} (h : Explains dialect later t answer') :
    Explains dialect (told ++ later) t answer' := by
  have columns : columnsAnswer? (told ++ later) t = columnsAnswer? later t := by
    cases tells <;> simp [columnsAnswer?, other]
  have keys : keysAnswer? (told ++ later) t = keysAnswer? later t := by
    cases tells <;> simp [keysAnswer?, other]
  cases h with
  | noColumns e found => exact .noColumns e (columns.trans found)
  | columns rows answered found found' =>
    exact .columns rows answered (columns.trans found) (keys.trans found')

/-- Where distinct tables were asked about one after the other, the record explains each answer. -/
theorem Explains.flatten {schema : Option String} {answers : List (String × Answer)}
    {told : List (List Exchange)}
    (tells : List.Forall₂ (fun e said => Tells dialect ⟨schema, e.1⟩ said e.2) answers told)
    (distinct : (answers.map Prod.fst).Nodup) {table : String} {answer : Answer}
    (h : (table, answer) ∈ answers) :
    Explains dialect told.flatten ⟨schema, table⟩ answer := by
  induction tells with
  | nil => cases h
  | @cons e said rest later here _ ih =>
    rw [List.map_cons, List.nodup_cons] at distinct
    rw [List.flatten_cons]
    obtain rfl | later := List.mem_cons.mp h
    · exact .of_tells here
    · have apart : e.1 ≠ table := by
        rintro rfl
        exact distinct.1 (List.mem_map.mpr ⟨_, later, rfl⟩)
      exact .append_of_other here (by simpa using apart) (ih distinct.2 later)

theorem Explains.failure?_eq (h : Explains dialect exchanges t answer) :
    failure? exchanges t = Assembly.error? answer := by
  cases h with
  | noColumns e columns => rw [failure?, columns]; rfl
  | columns rows keys columns answered => cases keys <;> rw [failure?, columns, answered] <;> rfl

theorem Explains.settles (h : Explains dialect exchanges t answer) : Settles exchanges t := by
  cases h with
  | noColumns e columns => exact .inl ⟨e, columns⟩
  | columns rows keys columns answered => exact .inr ⟨rows, keys, columns, answered⟩

/-- If rows and keys are on record, they made the answer. -/
theorem Explains.answer_eq (h : Explains dialect exchanges t answer) {rows : List CatalogColumn}
    {keys : List String} (columns : columnsAnswer? exchanges t = some (.ok rows))
    (primaryKeys : keysAnswer? exchanges t = some (.ok keys)) :
    answer = .ok (.ofRows dialect rows keys) := by
  cases h with
  | noColumns e found => cases columns.symm.trans found
  | columns rows' keys' found found' =>
    cases columns.symm.trans found
    cases primaryKeys.symm.trans found'
    rfl

end Exchange

namespace Assembly
open Exchange
variable {σ : Type} (adapter : CatalogAdapter (StateM σ)) (dialect : Dialect)
variable (resource : Resource) (resolver : Resolver)

/-- Asking about a table comes to the same when it is recorded. -/
theorem run_fetch_recorded (t : TableIdentifier) (s : σ) (log : List Exchange) :
    ∃ told, Tells dialect t told ((fetch adapter dialect t).run s).1 ∧
      (fetch adapter.recorded dialect t).run (s, log) =
        (((fetch adapter dialect t).run s).1, ((fetch adapter dialect t).run s).2,
          log ++ told) := by
  rcases columns : (adapter.fetchColumns t).run s with ⟨e | rows, s₁⟩
  · have recorded := CatalogAdapter.run_recorded_columns columns log
    rw [run_fetch_of_no_columns dialect columns, run_fetch_of_no_columns dialect recorded]
    exact ⟨_, .noColumns e, rfl⟩
  · rcases primaryKeys : (adapter.fetchPrimaryKeys t).run s₁ with ⟨keys, s₂⟩
    have recorded := CatalogAdapter.run_recorded_columns columns log
    have recorded' := CatalogAdapter.run_recorded_primaryKeys primaryKeys
      (log ++ [.columns t (.ok rows)])
    rw [run_fetch_of_columns dialect columns primaryKeys,
      run_fetch_of_columns dialect recorded recorded', List.append_assoc]
    exact ⟨_, .columns rows keys, rfl⟩

theorem run_mapM_recorded (tables : List String) (s : σ) (log : List Exchange) :
    let asked := (tables.mapM fun table =>
      fetch adapter dialect ⟨resource.database, table⟩).run s
    ∃ told, List.Forall₂ (fun e said => Tells dialect ⟨resource.database, e.1⟩ said e.2)
        (tables.zip asked.1) told ∧
      (tables.mapM fun table =>
        fetch adapter.recorded dialect ⟨resource.database, table⟩).run (s, log) =
        (asked.1, asked.2, log ++ told.flatten) := by
  induction tables generalizing s log with
  | nil => exact ⟨[], .nil, by rw [List.flatten_nil, List.append_nil]; rfl⟩
  | cons table rest ih =>
    obtain ⟨said, tells, first⟩ :=
      run_fetch_recorded adapter dialect ⟨resource.database, table⟩ s log
    obtain ⟨told, tellsLater, later⟩ :=
      ih ((fetch adapter dialect ⟨resource.database, table⟩).run s).2 (log ++ said)
    refine ⟨said :: told, ?_, ?_⟩
    · rw [List.mapM_cons]
      exact .cons tells tellsLater
    · rw [List.mapM_cons, List.mapM_cons, StateT.run_bind, first]
      change StateT.run (List.mapM _ rest >>= _) (_, log ++ said) = _
      rw [StateT.run_bind, later, List.flatten_cons, ← List.append_assoc]
      rfl

/-- Recording a run does not change it, and the record tells each of its answers. -/
theorem run_recorded (drivers : List DriverColumn) (s : σ) :
    let run := (assemble adapter dialect resource resolver drivers).run s
    ∃ told, List.Forall₂ (fun e said => Tells dialect ⟨resource.database, e.1⟩ said e.2)
        (answersOf adapter dialect resource resolver drivers s) told ∧
      (assemble adapter.recorded dialect resource resolver drivers).run (s, []) =
        (run.1, run.2, told.flatten) := by
  obtain ⟨told, tells, same⟩ :=
    run_mapM_recorded adapter dialect resource (resolver.tablesOf drivers) s []
  refine ⟨told, tells, ?_⟩
  rw [assemble_eq, assemble_eq, StateT.run_bind, same]
  rfl

theorem explains_recorded {drivers : List DriverColumn} {s : σ} {table : String}
    {answer : Answer}
    (h : (table, answer) ∈ answersOf adapter dialect resource resolver drivers s) :
    Explains dialect ((assemble adapter.recorded dialect resource resolver drivers).run
      (s, [])).2.2 ⟨resource.database, table⟩ answer := by
  obtain ⟨told, tells, same⟩ := run_recorded adapter dialect resource resolver drivers s
  rw [same]
  exact .flatten tells nodup_answersOf h

/-- The record tells of each table that it was asked about to the end, and why it failed. -/
theorem failure_of_recorded {drivers : List DriverColumn} {s : σ} {table : String}
    {answer : Answer}
    (h : (table, answer) ∈ answersOf adapter dialect resource resolver drivers s) :
    let log := ((assemble adapter.recorded dialect resource resolver drivers).run (s, [])).2.2
    failure? log ⟨resource.database, table⟩ = error? answer ∧
      Settles log ⟨resource.database, table⟩ := by
  intro log
  have explains := explains_recorded adapter dialect resource resolver h
  exact ⟨explains.failure?_eq, explains.settles⟩

/-- **A failed table degrades as a whole and is reported once.** The diagnostics of a run are one
for each distinct table that failed, in the order of their first columns, and no column of a failed
table has anything from the catalog. -/
theorem failed_tables_reported (drivers : List DriverColumn) (s : σ) :
    let result := ((assemble adapter dialect resource resolver drivers).run s).1
    let recorded := (assemble adapter.recorded dialect resource resolver drivers).run (s, [])
    let failure (table : String) := failure? recorded.2.2 ⟨resource.database, table⟩
    recorded.1 = result ∧
    (∀ table ∈ resolver.tablesOf drivers, Settles recorded.2.2 ⟨resource.database, table⟩) ∧
    result.diagnostics = ((resolver.tablesOf drivers).filterMap fun table =>
      let identifier : TableIdentifier := ⟨resource.database, table⟩
      (failure table).map fun e =>
        { code := .catalogFetchFailed
          severity := .warn
          message := "Failed to read catalog for " ++ identifier.qualifiedName ++ ": " ++ e.text
          context := some resource.name
          subject := some identifier.qualifiedName }) ∧
    ∀ (i : Nat) (d : DriverColumn), drivers[i]? = some d →
      (failure (resolver.tableOf d.name)).isSome → ∃ c : Column, result.columns[i]? = some c ∧
        c.tableName = resolver.tableOf d.name ∧ c.facts = .unknown := by
  intro result recorded failure
  have unchanged : recorded.1 = result := by
    obtain ⟨told, -, same⟩ := run_recorded adapter dialect resource resolver drivers s
    exact congrArg Prod.fst same
  have failed {table : String} {answer : Answer}
      (h : (table, answer) ∈ answersOf adapter dialect resource resolver drivers s) :
      failure table = error? answer :=
    (failure_of_recorded adapter dialect resource resolver h).1
  refine ⟨unchanged, ?_, ?_, ?_⟩
  · intro table asked
    obtain ⟨answer, h⟩ := exists_answer asked
    exact (failure_of_recorded adapter dialect resource resolver h).2
  · have names : resolver.tablesOf drivers =
        (answersOf adapter dialect resource resolver drivers s).map Prod.fst :=
      tables_answersOf.symm
    rw [names, List.filterMap_map]
    refine diagnostics_run.trans (List.filterMap_congr ?_)
    rintro ⟨table, answer⟩ h
    rw [Function.comp_apply, failed h]
    rfl
  · intro i d hd broken
    obtain ⟨answer, h⟩ := exists_answer (Resolver.mem_tablesOf hd)
    rw [failed h] at broken
    refine ⟨_, column_run hd h, ?_⟩
    cases answer with
    | ok catalog => cases broken
    | error e => exact ⟨rfl, rfl⟩

/-- A catalog that tells the rows of the films, but not their keys. -/
def keysRefused : CatalogAdapter (StateM Nat) :=
  { filmStore.counted with
    fetchPrimaryKeys := fun t => pure (.error (.permissionDenied t.table)) }

theorem exchanges_keysRefused :
    let log := ((assemble keysRefused.recorded .postgres films (.ofResource .postgres films)
      [filmId, language]).run (0, [])).2.2
    columnsAnswer? log ⟨films.database, "film"⟩ = some (.ok filmRows) ∧
    failure? log ⟨films.database, "film"⟩ = some (.permissionDenied "film") ∧
    failure? log ⟨films.database, "language"⟩ = some (.tableNotFound "public.language") := by
  rw [ofResource_films]
  decide +kernel

/-- The default of the key was told, and is not in its column. -/
theorem failed_tables_films :
    let run := (assemble keysRefused.recorded .postgres films (.ofResource .postgres films)
      [filmId, language]).run (0, [])
    columnsAnswer? run.2.2 ⟨films.database, "film"⟩ = some (.ok filmRows) ∧
    run.1.diagnostics.map (·.message) =
      ["Failed to read catalog for public.film: Permission denied: film",
        "Failed to read catalog for public.language: Table not found: public.language"] ∧
    ∃ c, run.1.columns[0]? = some c ∧ c.tableName = "film" ∧ c.facts = .unknown := by
  have asked : (Resolver.ofResource .postgres films).tablesOf [filmId, language] =
      ["film", "language"] := by
    rw [Resolver.tablesOf, tableOf_films]
    decide
  have exchanges := exchanges_keysRefused
  have reported := failed_tables_reported keysRefused .postgres films (.ofResource .postgres films)
    [filmId, language] 0
  dsimp only at exchanges reported ⊢
  -- All that is needed of the run is known now, so it is not computed.
  generalize (assemble keysRefused.recorded .postgres films (.ofResource .postgres films)
    [filmId, language]).run (0, []) = run at exchanges reported ⊢
  generalize ((assemble keysRefused .postgres films (.ofResource .postgres films)
    [filmId, language]).run 0).1 = result at reported
  obtain ⟨rows, refused, missing⟩ := exchanges
  obtain ⟨rfl, -, diagnostics, bare⟩ := reported
  refine ⟨rows, ?_, ?_⟩
  · rw [diagnostics, asked, List.filterMap_cons_some (by rw [refused]; rfl),
      List.filterMap_cons_some (by rw [missing]; rfl), List.filterMap_nil]
    decide +kernel
  · obtain ⟨c, column, table, facts⟩ := bare 0 filmId rfl (by rw [tableOf_filmId, refused]; rfl)
    exact ⟨c, column, table.trans tableOf_filmId, facts⟩

end Assembly

end ColumnOrigin
