import ColumnOrigin.Data.Value

/-! Values as JSON text, in one line or laid out with one field or item on each line. -/

namespace ColumnOrigin.Json

/-- The lower-case hexadecimal digit of a number below sixteen. -/
def hexDigit (n : Nat) : Char :=
  if n < 10 then Char.ofNat (48 + n) else Char.ofNat (87 + n)

/-- Quotes, backslashes and the controls below the space are escaped; all else stands for
itself. -/
def escape (c : Char) : List Char :=
  if c = '"' then ['\\', '"']
  else if c = '\\' then ['\\', '\\']
  else if c = '\x08' then ['\\', 'b']
  else if c = '\x0c' then ['\\', 'f']
  else if c = '\n' then ['\\', 'n']
  else if c = '\r' then ['\\', 'r']
  else if c = '\t' then ['\\', 't']
  else if c.toNat < 32 then
    ['\\', 'u', '0', '0', hexDigit (c.toNat / 16), hexDigit (c.toNat % 16)]
  else [c]

def quoted (s : String) : List Char := '"' :: s.toList.flatMap escape ++ ['"']

/-- How a value is laid out. -/
inductive Layout where
  /-- One line without blanks. -/
  | compact
  /-- One field or item on each line, two blanks deeper than its parent. -/
  | pretty
deriving Repr, DecidableEq

namespace Layout

/-- What stands before an item at `depth`, and before the bracket that closes its list. -/
def lineBreak (depth : Nat) : Layout → List Char
  | .compact => []
  | .pretty => '\n' :: List.replicate (2 * depth) ' '

def colon : Layout → List Char
  | .compact => [':']
  | .pretty => [':', ' ']

end Layout

mutual

/-- The text of a value whose items, if it has any, stand at `depth + 1`. -/
def render (layout : Layout) (depth : Nat) : Value → List Char
  | .null => ['n', 'u', 'l', 'l']
  | .bool true => ['t', 'r', 'u', 'e']
  | .bool false => ['f', 'a', 'l', 's', 'e']
  | .natural n => Nat.toDigits 10 n
  | .scalar => ['0', '.', '0']
  | .string s => quoted s
  | .list [] => ['[', ']']
  | .list (v :: rest) =>
    '[' :: layout.lineBreak (depth + 1) ++ render layout (depth + 1) v ++
      renderItems layout depth rest
  | .record [] => ['{', '}']
  | .record ((name, v) :: rest) =>
    '{' :: layout.lineBreak (depth + 1) ++ quoted name ++ layout.colon ++
      render layout (depth + 1) v ++ renderFields layout depth rest
  | .section [] => ['{', '}']
  | .section ((name, v) :: rest) =>
    '{' :: layout.lineBreak (depth + 1) ++ quoted name ++ layout.colon ++
      render layout (depth + 1) v ++ renderFields layout depth rest

/-- The items after the first and the closing bracket. -/
def renderItems (layout : Layout) (depth : Nat) : List Value → List Char
  | [] => layout.lineBreak depth ++ [']']
  | v :: rest =>
    ',' :: layout.lineBreak (depth + 1) ++ render layout (depth + 1) v ++
      renderItems layout depth rest

/-- The fields after the first and the closing brace. -/
def renderFields (layout : Layout) (depth : Nat) : List (String × Value) → List Char
  | [] => layout.lineBreak depth ++ ['}']
  | (name, v) :: rest =>
    ',' :: layout.lineBreak (depth + 1) ++ quoted name ++ layout.colon ++
      render layout (depth + 1) v ++ renderFields layout depth rest

end

def print (layout : Layout) (v : Value) : String := String.ofList (render layout 0 v)

end ColumnOrigin.Json
