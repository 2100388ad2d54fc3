import ColumnOrigin.Sql.Lexer
import ColumnOrigin.Sql.Parser.Command

/-! Whole texts.

The rules of the grammar refer to each other, and every such reference reads at least one token
within two steps. So the rules are taken to a depth given by the number of tokens, below which none
is ever asked for. -/

namespace ColumnOrigin.Sql

namespace Rules

/-- All rules, one deeper than the rules they refer to. -/
def deeper (r : Rules) : Rules where
  statement := Parser.statement r
  query := Parser.query r (Parser.change r)
  body := Parser.body r
  expr := Parser.expr r
  operand := Parser.operand r
  chain := Parser.chain r
  dataType := Parser.dataType r
  jsonColumn := Parser.jsonColumn r
  rowPattern := Parser.rowPattern r

/-- The rules where no rule is inside more than `depth` others. -/
def toDepth : Nat → Rules
  | 0 => none
  | depth + 1 => deeper (toDepth depth)

end Rules

namespace Parser

/-- How many levels of statements, queries and expressions a text may have. -/
def maxLevels : Nat := 50

/-- The statements of a list of tokens. -/
def ofTokens (g : Grammar) (tokens : List Token) : Except ParseError (List Statement) :=
  let rules := Rules.toDepth (2 * tokens.length + 4)
  (statements rules { grammar := g, levels := maxLevels, inConnectBy := false } tokens).map (·.1)

end Parser

/-- The statements of a text. A text that has no tokens is refused before any rule is tried. -/
def parse (g : Grammar) (sql : String) : Except ParseError (List Statement) :=
  match Lexer.tokens? g sql with
  | none => .error .lexical
  | some tokens => Parser.ofTokens g tokens

end ColumnOrigin.Sql
