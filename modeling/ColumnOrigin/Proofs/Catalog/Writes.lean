import ColumnOrigin.Catalog.MemoryCatalog
import ColumnOrigin.Proofs.Names
import Mathlib.Data.Finset.Card

/-!
# What a catalog in memory answers after a list of writes

All lists are of what was done, the latest first. A store answers about a table with its latest
error, else with its latest rows (`CatalogStore.Reflects`); the settings of a handle are those it was
last given (`HandleSettings.Reflects`). A catalog that is put together step by step has the store and
the settings that its steps write (`MemoryCatalog.build_eq`).
-/

namespace ColumnOrigin

/-- Something added to a store. -/
inductive StoreWrite where
  | table (t : TableIdentifier) (stored : StoredTable)
  | error (t : TableIdentifier) (e : FetchError)
deriving Repr, DecidableEq

namespace StoreWrite

def apply : StoreWrite → CatalogStore → CatalogStore
  | .table t stored, s => s.addTable t stored
  | .error t e, s => s.addError t e

/-- The table that something is added for. -/
def target : StoreWrite → TableIdentifier
  | .table t _ => t
  | .error t _ => t

/-- The table that is added under a qualified name. -/
def stored? (name : String) : StoreWrite → Option StoredTable
  | .table t stored => if t.qualifiedName = name then some stored else none
  | .error _ _ => none

/-- The error that is added under a qualified name. -/
def error? (name : String) : StoreWrite → Option FetchError
  | .table _ _ => none
  | .error t e => if t.qualifiedName = name then some e else none

end StoreWrite

/-- The qualified names of the tables that are added. -/
def tableNames : List StoreWrite → List String
  | [] => []
  | .table t _ :: before => t.qualifiedName :: tableNames before
  | .error _ _ :: before => tableNames before

namespace CatalogStore

section
variable {w : StoreWrite} {t : TableIdentifier} (s : CatalogStore)
variable (apart : w.target.qualifiedName ≠ t.qualifiedName)
include apart

/-- What is added for tables of other names is not found. -/
theorem lookup_apply_of_apart : (w.apply s).lookup t = s.lookup t := by
  cases w with
  | table t' stored =>
    have other : t'.qualifiedName ≠ t.qualifiedName := apart
    simp only [lookup, StoreWrite.apply, addTable, NameMap.getElem?_insert, other, if_false]
  | error t' e =>
    have other : t'.qualifiedName ≠ t.qualifiedName := apart
    simp only [lookup, StoreWrite.apply, addError, NameMap.getElem?_insert, other, if_false]

theorem hasTable_apply_of_apart : (w.apply s).hasTable t = s.hasTable t := by
  cases w with
  | table t' stored =>
    have other : compare t'.qualifiedName t.qualifiedName ≠ .eq := mt Std.compare_eq_iff_eq.mp apart
    simp [hasTable, StoreWrite.apply, addTable, Std.ExtTreeMap.contains_insert, other]
  | error t' e => rfl

end

/-- The store with all that was added to it, the latest first. -/
def afterWrites (writes : List StoreWrite) : CatalogStore := writes.foldr StoreWrite.apply empty

@[simp] theorem afterWrites_nil : afterWrites [] = empty := rfl

@[simp] theorem afterWrites_table (t : TableIdentifier) (stored : StoredTable)
    (before : List StoreWrite) :
    afterWrites (.table t stored :: before) = (afterWrites before).addTable t stored := rfl

@[simp] theorem afterWrites_error (t : TableIdentifier) (e : FetchError)
    (before : List StoreWrite) :
    afterWrites (.error t e :: before) = (afterWrites before).addError t e := rfl

theorem errors_afterWrites (writes : List StoreWrite) (name : String) :
    (afterWrites writes).errors[name]? = writes.findSome? (·.error? name) := by
  induction writes with
  | nil => simp [empty]
  | cons w before ih =>
    rw [List.findSome?_cons]
    cases w with
    | table t stored => exact ih
    | error t e =>
      rw [afterWrites_error, addError, NameMap.getElem?_insert, StoreWrite.error?]
      split
      · rfl
      · exact ih

theorem tables_afterWrites (writes : List StoreWrite) (name : String) :
    (afterWrites writes).tables[name]? = writes.findSome? (·.stored? name) := by
  induction writes with
  | nil => simp [empty]
  | cons w before ih =>
    rw [List.findSome?_cons]
    cases w with
    | table t stored =>
      rw [afterWrites_table, addTable, NameMap.getElem?_insert, StoreWrite.stored?]
      split
      · rfl
      · exact ih
    | error t e => exact ih

theorem mem_tables_afterWrites (writes : List StoreWrite) (name : String) :
    name ∈ (afterWrites writes).tables ↔ name ∈ tableNames writes := by
  induction writes with
  | nil => simp [empty, tableNames]
  | cons w before ih =>
    cases w with
    | table t stored =>
      rw [afterWrites_table, addTable, Std.ExtTreeMap.mem_insert, Std.compare_eq_iff_eq, ih,
        tableNames, List.mem_cons, eq_comm]
    | error t e => exact ih

theorem size_tables_afterWrites (writes : List StoreWrite) :
    (afterWrites writes).tables.size = (tableNames writes).toFinset.card := by
  induction writes with
  | nil => simp [empty, tableNames]
  | cons w before ih =>
    cases w with
    | table t stored =>
      rw [afterWrites_table, addTable, Std.ExtTreeMap.size_insert, tableNames, List.toFinset_cons,
        Finset.card_insert_eq_ite, ih]
      simp only [List.mem_toFinset, ← mem_tables_afterWrites, ← Std.ExtTreeMap.contains_iff_mem]
    | error t e => exact ih

/-- A store that holds what was added to it, the latest first. -/
structure Reflects (s : CatalogStore) (writes : List StoreWrite) : Prop where
  /-- The latest error of a table is the answer, whatever rows there are. -/
  configured : ∀ t e, writes.findSome? (·.error? t.qualifiedName) = some e →
    s.fetchColumns t = .error e ∧ s.fetchPrimaryKeys t = .error e
  /-- Without an error the latest rows are the answer. -/
  added : ∀ t stored, writes.findSome? (·.error? t.qualifiedName) = none →
    writes.findSome? (·.stored? t.qualifiedName) = some stored →
      s.fetchColumns t = .ok stored.columns ∧ s.fetchPrimaryKeys t = .ok stored.primaryKeys
  missing : ∀ t, writes.findSome? (·.error? t.qualifiedName) = none →
    writes.findSome? (·.stored? t.qualifiedName) = none →
      s.fetchColumns t = .error (.tableNotFound t.qualifiedName) ∧
        s.fetchPrimaryKeys t = .error (.tableNotFound t.qualifiedName)
  /-- Errors do not count as tables. -/
  hasTable_iff : ∀ t, s.hasTable t ↔ t.qualifiedName ∈ tableNames writes
  tableCount_eq : s.tableCount = (tableNames writes).toFinset.card

theorem reflects_afterWrites (writes : List StoreWrite) : (afterWrites writes).Reflects writes where
  configured t e found := by
    simp [fetchColumns, fetchPrimaryKeys, lookup, errors_afterWrites, found, Except.map]
  added t stored clear found := by
    simp [fetchColumns, fetchPrimaryKeys, lookup, errors_afterWrites, tables_afterWrites, clear,
      found, Except.map]
  missing t clear absent := by
    simp [fetchColumns, fetchPrimaryKeys, lookup, errors_afterWrites, tables_afterWrites, clear,
      absent, Except.map]
  hasTable_iff t := by
    rw [hasTable, Std.ExtTreeMap.contains_iff_mem, mem_tables_afterWrites]
  tableCount_eq := size_tables_afterWrites writes

end CatalogStore

/-- What a handle's settings may be changed to. -/
inductive SettingChange where
  | rename (name : String)
  | delay (latency : Nat)
  | failConnection
deriving Repr, DecidableEq

namespace SettingChange

def apply : SettingChange → HandleSettings → HandleSettings
  | .rename name, s => { s with name }
  | .delay latency, s => { s with latency }
  | .failConnection, s => { s with failsConnection := true }

def name? : SettingChange → Option String
  | .rename name => some name
  | _ => none

end SettingChange

namespace HandleSettings

/-- The settings of a new handle with all changes made to them, the latest first. -/
def afterChanges (changes : List SettingChange) : HandleSettings :=
  changes.foldr SettingChange.apply {}

@[simp] theorem afterChanges_cons (change : SettingChange) (before : List SettingChange) :
    afterChanges (change :: before) = change.apply (afterChanges before) := rfl

theorem name_afterChanges (changes : List SettingChange) :
    (afterChanges changes).name = (changes.findSome? (·.name?)).getD "Mock" := by
  induction changes with
  | nil => rfl
  | cons change before ih =>
    rw [afterChanges_cons, List.findSome?_cons]
    cases change with
    | rename name => rfl
    | delay latency => exact ih
    | failConnection => exact ih

theorem failsConnection_afterChanges (changes : List SettingChange) :
    (afterChanges changes).failsConnection ↔ .failConnection ∈ changes := by
  induction changes with
  | nil => simp [afterChanges]
  | cons change before ih => cases change <;> simp [SettingChange.apply, ih]

/-- Settings as they were left by changes, the latest first. -/
structure Reflects (s : HandleSettings) (changes : List SettingChange) : Prop where
  name_eq : s.name = (changes.findSome? (·.name?)).getD "Mock"
  /-- A connection that is set to fail fails ever after. -/
  testConnection_eq : s.testConnection =
    if .failConnection ∈ changes then .error (.network "Simulated connection failure") else .ok ()

theorem reflects_afterChanges (changes : List SettingChange) :
    (afterChanges changes).Reflects changes where
  name_eq := name_afterChanges changes
  testConnection_eq := by simp only [testConnection, failsConnection_afterChanges]

end HandleSettings

/-- One step of putting a catalog together. -/
inductive BuilderStep where
  | write (w : StoreWrite)
  | setting (change : SettingChange)
deriving Repr, DecidableEq

namespace BuilderStep

def apply : BuilderStep → MemoryCatalog → MemoryCatalog
  | .write (.table t stored), c => c.withTable t stored
  | .write (.error t e), c => c.withError t e
  | .setting (.rename name), c => c.withName name
  | .setting (.delay latency), c => c.withLatency latency
  | .setting .failConnection, c => c.withConnectionFailure

def write? : BuilderStep → Option StoreWrite
  | .write w => some w
  | .setting _ => none

def change? : BuilderStep → Option SettingChange
  | .write _ => none
  | .setting change => some change

theorem apply_write (w : StoreWrite) (c : MemoryCatalog) :
    (BuilderStep.write w).apply c = { c with store := w.apply c.store } := by
  cases w <;> rfl

theorem apply_setting (change : SettingChange) (c : MemoryCatalog) :
    (BuilderStep.setting change).apply c = { c with settings := change.apply c.settings } := by
  cases change <;> rfl

end BuilderStep

/-- The catalog that is put together by some steps, the latest first. -/
def MemoryCatalog.build (steps : List BuilderStep) : MemoryCatalog :=
  steps.foldr BuilderStep.apply {}

theorem MemoryCatalog.build_eq (steps : List BuilderStep) :
    build steps = ⟨.afterWrites (steps.filterMap (·.write?)),
      .afterChanges (steps.filterMap (·.change?))⟩ := by
  induction steps with
  | nil => rfl
  | cons step before ih =>
    rw [build, List.foldr_cons, ← build, ih]
    cases step with
    | write w => exact BuilderStep.apply_write w _
    | setting change => exact BuilderStep.apply_setting change _

end ColumnOrigin
