/-! Parsed statements, kept as far as attribution needs them: the projection, the FROM clause and
the shape of the query around them. What expressions compute is not kept. -/

namespace ColumnOrigin.Sql

/-- An expression: a column by its dotted name, or anything else. -/
inductive Expr where
  /-- The parts of the name, the column last. -/
  | column (parts : List String)
  | computed
deriving Repr, DecidableEq

inductive SelectItem where
  /-- All columns: `*`. -/
  | wildcard
  /-- All columns of a table: `t.*`, with the parts of the qualifier. -/
  | qualifiedWildcard (qualifier : List String)
  | unnamed (e : Expr)
  | aliased (e : Expr) (name : String)
deriving Repr, DecidableEq

inductive JoinOperator where
  | inner
  | leftOuter
  | rightOuter
  | fullOuter
  | cross
  | leftSemi
  | rightSemi
  | leftAnti
  | rightAnti
  | semi
  | anti
  | crossApply
  | outerApply
  | asOf
deriving Repr, DecidableEq

/-- A table factor that is neither a table, a query nor a join. -/
inductive FactorKind where
  /-- Written `TABLE(e)`. -/
  | tableFunction
  | unnest
  /-- Written `LATERAL f(e, …)`. -/
  | lateralCall
  | jsonTable
  | openJson
  | pivot
  | unpivot
  | matchRecognize
deriving Repr, DecidableEq

mutual

/-- One operand of a join or item of a FROM clause. -/
inductive TableFactor where
  /-- A table by its dotted name. `isCall` says that an argument list follows the name. -/
  | table (name : List String) (isCall : Bool) (correlation : Option String)
  /-- A query in parentheses. -/
  | derived (correlation : Option String)
  /-- A join in parentheses. -/
  | nested (inner : JoinChain) (correlation : Option String)
  | other (kind : FactorKind) (correlation : Option String)

/-- Factors with joins between them, `f₀ JOIN f₁ … JOIN fₙ`, to be read from the left. -/
inductive JoinChain where
  | single (factor : TableFactor)
  | join (left : JoinChain) (operator : JoinOperator) (right : TableFactor)

end

deriving instance Repr, DecidableEq for TableFactor, JoinChain

/-- The projection and the FROM clause of one SELECT. -/
structure Select where
  projection : List SelectItem
  sources : List JoinChain
deriving Repr, DecidableEq

/-- A query. At each level of parentheses it may start with a WITH clause. -/
inductive Query where
  | select (hasWith : Bool) (body : Select)
  | parenthesised (hasWith : Bool) (inner : Query)
  /-- Set operations, VALUES and the like. -/
  | other (hasWith : Bool)
deriving Repr, DecidableEq

/-- The query with WITH before it, or without. -/
def Query.startingWith (hasWith : Bool) : Query → Query
  | .select _ body => .select hasWith body
  | .parenthesised _ inner => .parenthesised hasWith inner
  | .other _ => .other hasWith

inductive Statement where
  | query (q : Query)
  | other
deriving Repr, DecidableEq

end ColumnOrigin.Sql
