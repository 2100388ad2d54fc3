import ColumnOrigin.Data.Value
import ColumnOrigin.Text.Digits

/-! Values from JSON text. The reader accepts exactly the grammar of the format: no comments, no
trailing commas, no leading zeros, and no half of a surrogate pair alone. -/

namespace ColumnOrigin.Json

open Text (hexNumber? isDigit ofDigits)

def isSpace (c : Char) : Bool := c = ' ' || c = '\n' || c = '\r' || c = '\t'

def skipSpace (cs : List Char) : List Char := cs.dropWhile isSpace

def isHighSurrogate (n : Nat) : Bool := 0xD800 ≤ n && n < 0xDC00

def isLowSurrogate (n : Nat) : Bool := 0xDC00 ≤ n && n < 0xE000

/-- The character written after `\u`, which may take a second `\u` for its low surrogate. -/
def codePoint? (cs : List Char) : Option (Char × List Char) := do
  let (high, rest) ← hexNumber? 4 cs
  if isLowSurrogate high then none
  else if isHighSurrogate high then
    match rest with
    | '\\' :: 'u' :: rest =>
      let (low, rest) ← hexNumber? 4 rest
      if isLowSurrogate low then
        pure (Char.ofNat (0x10000 + (high - 0xD800) * 0x400 + (low - 0xDC00)), rest)
      else none
    | _ => none
  else pure (Char.ofNat high, rest)

/-- The character after a backslash. -/
def escaped? : List Char → Option (Char × List Char)
  | '"' :: rest => some ('"', rest)
  | '\\' :: rest => some ('\\', rest)
  | '/' :: rest => some ('/', rest)
  | 'b' :: rest => some ('\x08', rest)
  | 'f' :: rest => some ('\x0c', rest)
  | 'n' :: rest => some ('\n', rest)
  | 'r' :: rest => some ('\r', rest)
  | 't' :: rest => some ('\t', rest)
  | 'u' :: rest => codePoint? rest
  | _ => none

/-- The rest of a string whose opening quote has been read. `fuel` bounds its characters. -/
def stringBody? : Nat → List Char → Option (List Char × List Char)
  | _, '"' :: rest => some ([], rest)
  | fuel + 1, '\\' :: rest => do
    let (c, rest) ← escaped? rest
    let (cs, rest) ← stringBody? fuel rest
    pure (c :: cs, rest)
  | fuel + 1, c :: rest =>
    if c.toNat < 32 then none
    else do
      let (cs, rest) ← stringBody? fuel rest
      pure (c :: cs, rest)
  | _, _ => none

/-- A string, from its opening quote on. -/
def string? : List Char → Option (String × List Char)
  | '"' :: rest => (stringBody? rest.length rest).map fun r => (String.ofList r.1, r.2)
  | _ => none

/-- One digit or more, and the text after them. -/
def digits? (cs : List Char) : Option (List Char × List Char) :=
  match cs.span isDigit with
  | ([], _) => none
  | r => some r

/-- The digits of an integer: a zero stands alone. -/
def integer? (cs : List Char) : Option (List Char × List Char) :=
  match cs with
  | '0' :: rest => some (['0'], rest)
  | _ => digits? cs

/-- The fraction and the exponent after an integer, if there are any: whether there were, and the
text after them. -/
def fraction? (cs : List Char) : Option (Bool × List Char) := do
  let (dotted, cs) ← match cs with
    | '.' :: rest => (digits? rest).map fun r => (true, r.2)
    | _ => some (false, cs)
  let (scaled, cs) ← match cs with
    | e :: rest =>
      if e = 'e' ∨ e = 'E' then
        match rest with
        | '+' :: rest => (digits? rest).map fun r => (true, r.2)
        | '-' :: rest => (digits? rest).map fun r => (true, r.2)
        | _ => (digits? rest).map fun r => (true, r.2)
      else some (false, cs)
    | [] => some (false, cs)
  pure (dotted || scaled, cs)

/-- A number. One with a sign, a fraction or an exponent is a scalar. -/
def number? (cs : List Char) : Option (Value × List Char) := do
  let (signed, cs) := match cs with
    | '-' :: rest => (true, rest)
    | _ => (false, cs)
  let (digits, cs) ← integer? cs
  let (broken, cs) ← fraction? cs
  pure (if signed || broken then .scalar else .natural (ofDigits 10 digits), cs)

mutual

/-- A value that starts at the first character. `fuel` bounds the values and separators read. -/
def value? : Nat → List Char → Option (Value × List Char)
  | 0, _ => none
  | fuel + 1, cs =>
    match cs with
    | 'n' :: 'u' :: 'l' :: 'l' :: rest => some (.null, rest)
    | 't' :: 'r' :: 'u' :: 'e' :: rest => some (.bool true, rest)
    | 'f' :: 'a' :: 'l' :: 's' :: 'e' :: rest => some (.bool false, rest)
    | '"' :: _ => (string? cs).map fun r => (.string r.1, r.2)
    | '[' :: rest =>
      match skipSpace rest with
      | ']' :: rest => some (.list [], rest)
      | rest => (items? fuel rest).map fun r => (.list r.1, r.2)
    | '{' :: rest =>
      match skipSpace rest with
      | '}' :: rest => some (.record [], rest)
      | rest => (fields? fuel rest).map fun r => (.record r.1, r.2)
    | _ => number? cs

/-- One item or more, and the closing bracket. -/
def items? : Nat → List Char → Option (List Value × List Char)
  | 0, _ => none
  | fuel + 1, cs => do
    let (v, rest) ← value? fuel cs
    match skipSpace rest with
    | ']' :: rest => pure ([v], rest)
    | ',' :: rest =>
      let (vs, rest) ← items? fuel (skipSpace rest)
      pure (v :: vs, rest)
    | _ => none

/-- One field or more, and the closing brace. -/
def fields? : Nat → List Char → Option (List (String × Value) × List Char)
  | 0, _ => none
  | fuel + 1, cs => do
    let (name, rest) ← string? cs
    match skipSpace rest with
    | ':' :: rest =>
      let (v, rest) ← value? fuel (skipSpace rest)
      match skipSpace rest with
      | '}' :: rest => pure ([(name, v)], rest)
      | ',' :: rest =>
        let (fs, rest) ← fields? fuel (skipSpace rest)
        pure ((name, v) :: fs, rest)
      | _ => none
    | _ => none

end

/-- The value that a whole text writes, white space around it aside. -/
def parse? (text : String) : Option Value :=
  let cs := skipSpace text.toList
  match value? (2 * cs.length + 1) cs with
  | some (v, rest) => if skipSpace rest = [] then some v else none
  | none => none

end ColumnOrigin.Json
