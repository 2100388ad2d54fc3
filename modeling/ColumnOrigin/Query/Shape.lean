import ColumnOrigin.Diagnostic
import ColumnOrigin.Query.FromNode

/-! The shape of a resource's query: its FROM clause and its projection. Only a text that is one
plain SELECT has a shape. -/

namespace ColumnOrigin

/-- A projected column that has a name. -/
structure ProjectedColumn where
  /-- The name it has in the result. -/
  name : String
  /-- The qualifier of the column it refers to, if it refers to one and that is qualified. -/
  qualifier : Option String
deriving Repr, DecidableEq

structure Shape where
  /-- One node for each item of the FROM clause. -/
  sources : List FromNode
  columns : List ProjectedColumn
  /-- The qualifiers of `t.*` items. -/
  qualifiedWildcards : List String
deriving Repr, DecidableEq

/-- Why a text that parses has no shape. -/
inductive Unsupported where
  | statementCount (n : Nat)
  | notQuery
  | commonTables
  | notSelect
deriving Repr, DecidableEq

namespace Unsupported

def message : Unsupported → String
  | .statementCount n => "Expected a single statement, found " ++ toString n
  | .notQuery => "Resource query is not a SELECT statement"
  | .commonTables => "Common table expressions are not supported"
  | .notSelect => "Set operations and VALUES bodies are not supported"

def diagnostic (u : Unsupported) : Diagnostic where
  code := .sqlUnsupportedSyntax
  severity := .warn
  message := u.message

end Unsupported

namespace Sql

/-- The column that an expression refers to, and its qualifier. -/
def Expr.reference? : Expr → Option (String × Option String)
  | .column parts =>
    match parts.reverse with
    | [] => none
    | [name] => some (name, none)
    | name :: qualifier :: _ => some (name, some qualifier)
  | .computed => none

/-- The named column that an item of the projection adds. -/
def SelectItem.column? : SelectItem → Option ProjectedColumn
  | .unnamed e => e.reference?.map fun r => ⟨r.1, r.2⟩
  | .aliased e name => some ⟨name, e.reference?.bind (·.2)⟩
  | _ => none

/-- The qualifier of a `t.*` item. -/
def SelectItem.wildcard? : SelectItem → Option String
  | .qualifiedWildcard qualifier => qualifier.getLast?
  | _ => none

def Select.shape (s : Select) : Shape where
  sources := s.sources.map JoinChain.toNode
  columns := s.projection.filterMap SelectItem.column?
  qualifiedWildcards := s.projection.filterMap SelectItem.wildcard?

/-- The shape of the SELECT inside any number of parentheses. -/
def Query.shape : Query → Except Unsupported Shape
  | .select hasWith body => if hasWith then .error .commonTables else .ok body.shape
  | .parenthesised hasWith inner => if hasWith then .error .commonTables else inner.shape
  | .other hasWith => if hasWith then .error .commonTables else .error .notSelect

end Sql

namespace Shape

def ofStatements : List Sql.Statement → Except Unsupported Shape
  | [.query q] => q.shape
  | [.other] => .error .notQuery
  | statements => .error (.statementCount statements.length)

end Shape

end ColumnOrigin
