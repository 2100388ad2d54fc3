import ColumnOrigin.Sql.Statement

/-! The FROM clause as attribution sees it: base tables, outer joins, and constructs it does not
look into. -/

namespace ColumnOrigin

/-- An item of a FROM clause. -/
inductive FromNode where
  /-- A table, by the last part of its name. -/
  | base (table : String) (correlation : Option String)
  /-- A LEFT or RIGHT join. -/
  | outerJoin (left right : FromNode)
  /-- Anything else, with what it is called and the names it is known to declare. -/
  | unsupported (kind : String) (declared : List String)
deriving Repr, DecidableEq

namespace FromNode

/-- The correlation names that the item makes visible, in written order. -/
def declaredNames : FromNode → List String
  | .base table correlation => [correlation.getD table]
  | .outerJoin left right => left.declaredNames ++ right.declaredNames
  | .unsupported _ declared => declared

end FromNode

namespace Sql

/-- Only LEFT and RIGHT joins are looked into. -/
def JoinOperator.isOneSided : JoinOperator → Bool
  | .leftOuter => true
  | .rightOuter => true
  | _ => false

/-- What an unsupported join is called. -/
def JoinOperator.description : JoinOperator → String
  | .inner => "inner join"
  | .fullOuter => "full outer join"
  | .cross => "cross join"
  | _ => "join"

def FactorKind.description : FactorKind → String
  | .tableFunction => "table function"
  | .unnest => "unnest"
  | _ => "table factor"

/-- The names that a factor of this kind is known to declare. Aliases are collected from table
functions and UNNEST alone. -/
def FactorKind.declared : FactorKind → Option String → List String
  | .tableFunction, correlation => correlation.toList
  | .unnest, correlation => correlation.toList
  | _, _ => []

mutual

/-- Parentheses without an alias around a join leave no trace. -/
def TableFactor.toNode : TableFactor → FromNode
  | .table name _ correlation =>
    match name.getLast? with
    | some table => .base table correlation
    | none => .unsupported "empty table name" []
  | .derived correlation => .unsupported "derived table" correlation.toList
  | .nested inner none => inner.toNode
  | .nested _ (some correlation) => .unsupported "aliased nested join" [correlation]
  | .other kind correlation => .unsupported kind.description (kind.declared correlation)

/-- A join that is not one-sided hides all that is joined so far. -/
def JoinChain.toNode : JoinChain → FromNode
  | .single factor => factor.toNode
  | .join left operator right =>
    if operator.isOneSided then .outerJoin left.toNode right.toNode
    else .unsupported operator.description
      (left.toNode.declaredNames ++ right.toNode.declaredNames)

end

end Sql

end ColumnOrigin
