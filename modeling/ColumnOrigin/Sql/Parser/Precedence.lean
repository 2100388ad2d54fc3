import ColumnOrigin.Sql.Parser.Basic

/-! How strongly operators bind. -/

namespace ColumnOrigin.Sql

/-- The groups of operators that bind alike. -/
inductive Binding where
  | or
  | and
  | not
  | is
  | like
  | equality
  | between
  | pipe
  | caret
  | ampersand
  | xor
  | plusMinus
  | mulDivMod
  | atTimeZone
  | doubleColon
  /-- The operators of PostgreSQL that have no group of their own. -/
  | special
  | bracket
  | collate
deriving Repr, DecidableEq

namespace Binding

/-- Greater levels bind more strongly; none is zero. -/
def level : Grammar → Binding → Nat
  | .postgres, b => match b with
    | .or => 10
    | .and => 20
    | .not => 30
    | .is => 40
    | .equality => 50
    | .between => 60
    | .like => 60
    | .special => 70
    | .pipe => 70
    | .ampersand => 70
    | .xor => 75
    | .plusMinus => 80
    | .mulDivMod => 90
    | .caret => 100
    | .atTimeZone => 110
    | .collate => 120
    | .bracket => 130
    | .doubleColon => 140
  | _, b => match b with
    | .or => 5
    | .and => 10
    | .not => 15
    | .special => 16
    | .is => 17
    | .like => 19
    | .equality => 20
    | .between => 20
    | .pipe => 21
    | .caret => 22
    | .ampersand => 23
    | .xor => 24
    | .plusMinus => 30
    | .mulDivMod => 40
    | .atTimeZone => 41
    | .doubleColon => 50
    | .bracket => 50
    | .collate => 0

/-- The group of an operator that is a symbol. -/
def ofSymbol? (g : Grammar) (s : String) : Option Binding :=
  if g == .postgres && ["!", "&&", "^@", "||", "#", ">>", "<<"].contains s then some .special
  else if ["::", "!", "&&", "^@"].contains s then some .doubleColon
  else if ["=", "<", "<=", "!=", ">", ">=", "==", "~", "~*", "!~", "!~*", "~~", "~~*", "!~~",
      "!~~*", "<=>"].contains s then some .equality
  else if s == "|" then some .pipe
  else if ["^", "#", ">>", "<<"].contains s then some .caret
  else if s == "&" then some .ampersand
  else if ["+", "-"].contains s then some .plusMinus
  else if ["*", "/", "//", "%", "||"].contains s then some .mulDivMod
  else if s == "[" then some .bracket
  else if ["->", "->>", "#>", "#>>", "@>", "<@", "#-", "@?", "@@", "?", "?&", "?|"].contains s then
    some .special
  else none

/-- The group of an operator that is a keyword, given the keywords of the two tokens after it. -/
def ofKeyword? (g : Grammar) (k second third : String) : Option Binding :=
  match k with
  | "OR" => some .or
  | "AND" => some .and
  | "XOR" => some .xor
  | "AT" => if second == "TIME" && third == "ZONE" then some .atTimeZone else none
  | "NOT" =>
    if ["IN", "BETWEEN"].contains second then some .between
    else if ["LIKE", "ILIKE", "RLIKE", "REGEXP", "SIMILAR"].contains second then some .like
    else none
  | "IS" => some .is
  | "IN" => some .between
  | "BETWEEN" => some .between
  | "LIKE" => some .like
  | "ILIKE" => some .like
  | "RLIKE" => some .like
  | "REGEXP" => some .like
  | "SIMILAR" => some .like
  | "OPERATOR" => some .between
  | "DIV" => some .mulDivMod
  | "COLLATE" => if g == .postgres then some .collate else none
  | _ => none

end Binding

namespace Parser

/-- How strongly the operator that comes next binds; zero if none does. -/
def nextLevel : Parser Nat := do
  let g ← grammar
  let binding : Option Binding ← match ← peek with
    | some (.symbol s) => pure (Binding.ofSymbol? g s)
    | some (.operatorRun _) => pure (some .special)
    | some (.word w) => do
      let second ← peekAt 1
      let third ← peekAt 2
      pure (Binding.ofKeyword? g w.keyword (keywordOf second) (keywordOf third))
    | _ => pure none
  return (binding.map (Binding.level g)).getD 0

end Parser

end ColumnOrigin.Sql
