import ColumnOrigin.Sql.Parser.Basic

/-! The rules of the grammar that refer to each other. Each module of the parser defines its rules
over the ones given here, and `Parser.Script` ties them together. -/

namespace ColumnOrigin.Sql

/-- A data type, as far as the text after it depends on it. -/
inductive TypeKind where
  | interval
  /-- A type by a name that the language does not know. -/
  | custom
  | builtIn
deriving Repr, DecidableEq

/-- The rules that may occur inside one another. -/
structure Rules where
  statement : Parser Statement
  query : Parser Query
  /-- A query without WITH, ORDER BY and the like, up to a set operator that binds no stronger
  than the argument. -/
  body : Nat → Parser Query
  /-- An expression up to an operator that binds no stronger than the argument. -/
  expr : Nat → Parser Expr
  /-- An expression without binary operators at its top. -/
  operand : Parser Expr
  /-- A table factor with the joins after it. -/
  chain : Parser JoinChain
  /-- A data type, and whether a bracket of the type around it has been read with it. -/
  dataType : Parser (TypeKind × Bool)
  /-- A column of JSON_TABLE. -/
  jsonColumn : Parser Unit
  /-- A row pattern of MATCH_RECOGNIZE. -/
  rowPattern : Parser Unit

namespace Rules

/-- The rules where no more text can be left: none applies. -/
def none : Rules where
  statement := Parser.refuse
  query := Parser.refuse
  body := fun _ => Parser.refuse
  expr := fun _ => Parser.refuse
  operand := Parser.refuse
  chain := Parser.refuse
  dataType := Parser.refuse
  jsonColumn := Parser.refuse
  rowPattern := Parser.refuse

/-- A whole expression. -/
def wholeExpr (r : Rules) : Parser Expr := r.expr 0

def exprs (r : Rules) : Parser (List Expr) := Parser.commaSeparated r.wholeExpr

/-- A data type that stands alone. -/
def wholeType (r : Rules) : Parser TypeKind := do
  match ← r.dataType with
  | (kind, false) => return kind
  | (_, true) => Parser.refuse

end Rules

end ColumnOrigin.Sql
