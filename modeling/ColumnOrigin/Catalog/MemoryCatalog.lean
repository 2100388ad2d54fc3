import ColumnOrigin.Catalog.Table
import ColumnOrigin.Names

/-! A catalog in memory, for trying things out without a database.

Its tables and errors are kept under the qualified names of the tables. Several handles may share
one such store: what is added through one of them is seen through all. -/

namespace ColumnOrigin

/-- The rows and keys of one table. -/
structure StoredTable where
  columns : List CatalogColumn
  primaryKeys : List String
deriving Repr, DecidableEq

/-- Tables, and errors that are answered in their place, by qualified name. -/
structure CatalogStore where
  tables : NameMap StoredTable
  errors : NameMap FetchError

namespace CatalogStore

def empty : CatalogStore := ⟨∅, ∅⟩

def addTable (s : CatalogStore) (t : TableIdentifier) (stored : StoredTable) : CatalogStore :=
  { s with tables := s.tables.insert t.qualifiedName stored }

def addError (s : CatalogStore) (t : TableIdentifier) (e : FetchError) : CatalogStore :=
  { s with errors := s.errors.insert t.qualifiedName e }

def hasTable (s : CatalogStore) (t : TableIdentifier) : Bool := s.tables.contains t.qualifiedName

def tableCount (s : CatalogStore) : Nat := s.tables.size

/-- An error comes before a table. -/
def lookup (s : CatalogStore) (t : TableIdentifier) : Except FetchError StoredTable :=
  match s.errors[t.qualifiedName]? with
  | some e => .error e
  | none =>
    match s.tables[t.qualifiedName]? with
    | some stored => .ok stored
    | none => .error (.tableNotFound t.qualifiedName)

def fetchColumns (s : CatalogStore) (t : TableIdentifier) :
    Except FetchError (List CatalogColumn) :=
  (s.lookup t).map (·.columns)

def fetchPrimaryKeys (s : CatalogStore) (t : TableIdentifier) : Except FetchError (List String) :=
  (s.lookup t).map (·.primaryKeys)

/-- The store as a catalog, which asking does not change. -/
def adapter (s : CatalogStore) : CatalogAdapter Id where
  fetchColumns := s.fetchColumns
  fetchPrimaryKeys := s.fetchPrimaryKeys

end CatalogStore

/-- What belongs to one handle alone. -/
structure HandleSettings where
  name : String := "Mock"
  failsConnection : Bool := false
  /-- Milliseconds before each answer. No answer depends on it. -/
  latency : Nat := 0
deriving Repr, DecidableEq

namespace HandleSettings

def testConnection (s : HandleSettings) : Except FetchError Unit :=
  if s.failsConnection then .error (.network "Simulated connection failure") else .ok ()

end HandleSettings

/-- A catalog as it is put together, before any handle to it exists. -/
structure MemoryCatalog where
  store : CatalogStore := .empty
  settings : HandleSettings := {}

namespace MemoryCatalog

def withTable (c : MemoryCatalog) (t : TableIdentifier) (stored : StoredTable) : MemoryCatalog :=
  { c with store := c.store.addTable t stored }

def withError (c : MemoryCatalog) (t : TableIdentifier) (e : FetchError) : MemoryCatalog :=
  { c with store := c.store.addError t e }

def withName (c : MemoryCatalog) (name : String) : MemoryCatalog :=
  { c with settings := { c.settings with name } }

def withLatency (c : MemoryCatalog) (latency : Nat) : MemoryCatalog :=
  { c with settings := { c.settings with latency } }

def withConnectionFailure (c : MemoryCatalog) : MemoryCatalog :=
  { c with settings := { c.settings with failsConnection := true } }

end MemoryCatalog

/-- A handle: the store it shares, by number, and its own settings. -/
structure Handle where
  group : Nat
  settings : HandleSettings
deriving Repr, DecidableEq

/-- All handles, by name, and the stores they share. -/
structure Handles where
  handles : NameMap Handle
  stores : List CatalogStore

namespace Handles

def none : Handles := ⟨∅, []⟩

/-- A handle to a catalog of its own. -/
def introduce (h : Handles) (name : String) (c : MemoryCatalog) : Handles where
  handles := h.handles.insert name ⟨h.stores.length, c.settings⟩
  stores := h.stores ++ [c.store]

/-- The settings of a handle and the store it sees. -/
def view? (h : Handles) (name : String) : Option (HandleSettings × CatalogStore) := do
  let handle ← h.handles[name]?
  let store ← h.stores[handle.group]?
  pure (handle.settings, store)

/-- Changes the store that a handle sees, for all that share it. -/
def modifyStore (h : Handles) (name : String) (f : CatalogStore → CatalogStore) : Handles :=
  match h.handles[name]? with
  | some handle => { h with stores := h.stores.modify handle.group f }
  | Option.none => h

/-- A handle with changed settings that shares the store of another. -/
def derive (h : Handles) (name source : String) (f : HandleSettings → HandleSettings) : Handles :=
  match h.handles[source]? with
  | some handle =>
    { h with handles := h.handles.insert name { handle with settings := f handle.settings } }
  | Option.none => h

end Handles

end ColumnOrigin
