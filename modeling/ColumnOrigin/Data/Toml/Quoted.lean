import ColumnOrigin.Data.Toml.Reader
import ColumnOrigin.Text.Digits

/-! Strings of TOML: basic ones with escapes and literal ones without, both on one line or on
several. -/

namespace ColumnOrigin.Toml

inductive Quoting where
  | basic
  | literal
deriving DecidableEq

def Quoting.quote : Quoting → Char
  | .basic => '"'
  | .literal => '\''

/-- The character after a backslash, and the text after it. -/
def escaped? : List Char → Option (Char × List Char)
  | '"' :: rest => some ('"', rest)
  | '\\' :: rest => some ('\\', rest)
  | 'b' :: rest => some ('\x08', rest)
  | 'f' :: rest => some ('\x0c', rest)
  | 'n' :: rest => some ('\n', rest)
  | 'r' :: rest => some ('\r', rest)
  | 't' :: rest => some ('\t', rest)
  | 'u' :: rest => Text.hexCharacter? 4 rest
  | 'U' :: rest => Text.hexCharacter? 8 rest
  | _ => none

/-- The rest of a string of one line whose opening quote has been read, and the text after it.
`fuel` bounds its characters. -/
def lineBody? (q : Quoting) : Nat → List Char → Option (List Char × List Char)
  | 0, _ => none
  | _, [] => none
  | fuel + 1, c :: rest =>
    if c = q.quote then some ([], rest)
    else if c = '\\' && q = .basic then do
      let (d, rest) ← escaped? rest
      let (cs, rest) ← lineBody? q fuel rest
      return (d :: cs, rest)
    else if isPlain c then (lineBody? q fuel rest).map fun r => (c :: r.1, r.2)
    else none

/-- Blanks and line ends at the start of a text are left out. -/
def dropBlankLines : List Char → List Char
  | '\n' :: rest => dropBlankLines rest
  | '\r' :: '\n' :: rest => dropBlankLines rest
  | c :: rest => if isBlank c then dropBlankLines rest else c :: rest
  | [] => []

/-- The text after a backslash at a line end, which takes the blanks and line ends after it
along. -/
def afterContinuation? (text : List Char) : Option (List Char) :=
  (afterLineEnd? (text.dropWhile isBlank)).map dropBlankLines

/-- The rest of a string of several lines, and the text after it. Of up to five quotes at its end
the last three close it. `fuel` bounds its characters. -/
def linesBody? (q : Quoting) : Nat → List Char → Option (List Char × List Char)
  | 0, _ => none
  | _, [] => none
  | fuel + 1, '\n' :: rest => (linesBody? q fuel rest).map fun r => ('\n' :: r.1, r.2)
  | fuel + 1, '\r' :: '\n' :: rest => (linesBody? q fuel rest).map fun r => ('\n' :: r.1, r.2)
  | fuel + 1, c :: rest =>
    let quotes := min 5 ((c :: rest).takeWhile (· = q.quote)).length
    if 3 ≤ quotes then some (List.replicate (quotes - 3) q.quote, (c :: rest).drop quotes)
    else if c = '\\' && q = .basic then
      match afterContinuation? rest with
      | some rest => linesBody? q fuel rest
      | none => do
        let (d, rest) ← escaped? rest
        let (cs, rest) ← linesBody? q fuel rest
        return (d :: cs, rest)
    else if isPlain c then (linesBody? q fuel rest).map fun r => (c :: r.1, r.2)
    else none

namespace Reader

/-- The rest of a string of one line whose opening quote has been read. -/
def lineString (q : Quoting) : Reader String :=
  apply fun text => (lineBody? q text.length text).map fun r => (String.ofList r.1, r.2)

/-- The rest of a string of several lines. A line end right after the opening quotes does not
count. -/
def linesString (q : Quoting) : Reader String := apply fun text =>
  let text := (afterLineEnd? text).getD text
  (linesBody? q text.length text).map fun r => (String.ofList r.1, r.2)

/-- A string of either extent, from its opening quote on. -/
def quoted (q : Quoting) : Reader String := do
  let quotes := List.replicate 3 q.quote
  if quotes.isPrefixOf (← get) then
    modify (·.drop 3)
    linesString q
  else
    expect q.quote
    lineString q

end Reader

end ColumnOrigin.Toml
