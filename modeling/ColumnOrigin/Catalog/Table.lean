/-! What a catalog is asked about and what it answers. -/

namespace ColumnOrigin

/-- A table in a catalog. -/
structure TableIdentifier where
  schema : Option String
  table : String
deriving Repr, DecidableEq

namespace TableIdentifier

/-- The name with the schema before it, if there is one. -/
def qualifiedName (t : TableIdentifier) : String :=
  match t.schema with
  | some schema => schema ++ "." ++ t.table
  | none => t.table

end TableIdentifier

/-- A row of a dialect's columns query. -/
structure CatalogColumn where
  name : String
  dataType : String
  /-- The text of the column's default. -/
  defaultValue : Option String := none
  /-- Further attributes, where the database has them. -/
  extra : Option String := none
deriving Repr, DecidableEq

/-- Why a catalog does not answer. -/
inductive FetchError where
  | authentication (message : String)
  | tableNotFound (message : String)
  | permissionDenied (message : String)
  | query (message : String)
  | network (message : String)
deriving Repr, DecidableEq

namespace FetchError

def text : FetchError → String
  | .authentication message => "Authentication failed: " ++ message
  | .tableNotFound message => "Table not found: " ++ message
  | .permissionDenied message => "Permission denied: " ++ message
  | .query message => "Query failed: " ++ message
  | .network message => "Network error: " ++ message

end FetchError

/-- A source of catalog rows. An answer may depend on what was asked before, and asking may change
what comes next: that is up to `m`. -/
structure CatalogAdapter (m : Type → Type) where
  fetchColumns : TableIdentifier → m (Except FetchError (List CatalogColumn))
  fetchPrimaryKeys : TableIdentifier → m (Except FetchError (List String))

/-- A question to a catalog. -/
inductive Fetch where
  | columns (table : TableIdentifier)
  | primaryKeys (table : TableIdentifier)
deriving Repr, DecidableEq

namespace CatalogAdapter

/-- The adapter that also writes down what it is asked, in order. -/
def logged {m : Type → Type} [Monad m] (a : CatalogAdapter m) :
    CatalogAdapter (StateT (List Fetch) m) where
  fetchColumns t := do modify (· ++ [.columns t]); a.fetchColumns t
  fetchPrimaryKeys t := do modify (· ++ [.primaryKeys t]); a.fetchPrimaryKeys t

end CatalogAdapter

end ColumnOrigin
