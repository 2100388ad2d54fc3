import ColumnOrigin.Data.Value
import ColumnOrigin.Text.Digits

/-! Truth values, numbers and dates of TOML, each a text without blanks except for the one that may
stand between a date and a time. Nothing here reads the value of a fraction or a date: what matters
is which texts are refused. -/

namespace ColumnOrigin.Toml

open Text (isDigit isHexDigit isOctalDigit ofDigits)

/-! ## Numbers -/

/-- The digits of a text that has nothing else but single underscores between them. -/
def digits? (isDigit : Char → Bool) : List Char → Option (List Char)
  | [] => none
  | [d] => if isDigit d then some [d] else none
  | d :: '_' :: rest => if isDigit d then (digits? isDigit rest).map (d :: ·) else none
  | d :: rest => if isDigit d then (digits? isDigit rest).map (d :: ·) else none

/-- The digits of an integer in base ten, of which a leading zero is the only one. -/
def decimal? (text : List Char) : Option (List Char) :=
  match digits? isDigit text with
  | some ('0' :: _ :: _) => none
  | r => r

/-- Whether a sign says that a number is negative, and the text after the sign. -/
def afterSign : List Char → Bool × List Char
  | '-' :: rest => (true, rest)
  | '+' :: rest => (false, rest)
  | text => (false, text)

/-- An integer of 64 bits, or the refusal of one that is larger. -/
def integerOf? (negative : Bool) (n : Nat) : Option Value :=
  if negative then if n ≤ Nat.pow 2 63 then some .scalar else none
  else if n < Nat.pow 2 63 then some (.natural n) else none

def integer? : List Char → Option Value
  | '0' :: 'x' :: rest => (digits? isHexDigit rest).bind (integerOf? false ∘ ofDigits 16)
  | '0' :: 'o' :: rest =>
    (digits? isOctalDigit rest).bind (integerOf? false ∘ ofDigits 8)
  | '0' :: 'b' :: rest =>
    (digits? (fun c => c = '0' || c = '1') rest).bind (integerOf? false ∘ ofDigits 2)
  | text =>
    let (negative, rest) := afterSign text
    (decimal? rest).bind (integerOf? negative ∘ ofDigits 10)

/-- The least number that is nearer to infinity than to any number of 64 bits: half a step above
the largest of those. -/
def infinityThreshold : Nat := Nat.pow 2 1024 - Nat.pow 2 970

/-- The digits, moved `exponent` places to the left, write a number that rounds to infinity. Only
where the number of places leaves it open is the number itself compared. -/
def roundsToInfinity (digits : List Char) (exponent : Int) : Bool :=
  let digits := digits.dropWhile (· = '0')
  let places := digits.length + exponent
  digits ≠ [] && 308 < places && (309 < places ||
    infinityThreshold * Nat.pow 10 (-exponent).toNat ≤
      ofDigits 10 digits * Nat.pow 10 exponent.toNat)

/-- The exponent of a number, which is left out where the number has a fraction. -/
def exponent? (hasFraction : Bool) : List Char → Option Int
  | [] => if hasFraction then some 0 else none
  | e :: rest =>
    if e = 'e' || e = 'E' then
      let (negative, rest) := afterSign rest
      (digits? isDigit rest).map fun ds =>
        if negative then -(ofDigits 10 ds : Int) else ofDigits 10 ds
    else none

/-- Digits and underscores at the start of a text, and the rest. -/
def spanDigits (text : List Char) : List Char × List Char :=
  text.span fun c => isDigit c || c = '_'

/-- A number with a fraction or an exponent. One that rounds to infinity is refused, but not below
zero. -/
def isFloat (text : List Char) : Bool :=
  let (negative, text) := afterSign text
  let (whole, text) := spanDigits text
  let isFinite (digits : List Char) (exponent : Option Int) : Bool :=
    match exponent with
    | some e => negative || !roundsToInfinity digits e
    | none => false
  match decimal? whole, text with
  | some whole, '.' :: text =>
    let (fraction, text) := spanDigits text
    match digits? isDigit fraction with
    | some fraction =>
      isFinite (whole ++ fraction) ((exponent? true text).map (· - fraction.length))
    | none => false
  | some whole, text => isFinite whole (exponent? false text)
  | none, text => whole = [] && (text = ['i', 'n', 'f'] || text = ['n', 'a', 'n'])

/-! ## Dates and times -/

/-- A number of two digits between two bounds, and the text after it. -/
def twoDigits? (least greatest : Nat) : List Char → Option (Nat × List Char)
  | a :: b :: rest =>
    let n := ofDigits 10 [a, b]
    if isDigit a && isDigit b && least ≤ n && n ≤ greatest then some (n, rest) else none
  | _ => none

def after? (c : Char) : List Char → Option (List Char)
  | d :: rest => if c = d then some rest else none
  | [] => none

def isLeapYear (year : Nat) : Bool := year % 4 = 0 && (year % 100 ≠ 0 || year % 400 = 0)

def daysOfMonth (year month : Nat) : Nat :=
  if month = 2 then if isLeapYear year then 29 else 28
  else if [4, 6, 9, 11].contains month then 30
  else 31

/-- The text after a date. -/
def afterDate? (text : List Char) : Option (List Char) := do
  let (century, text) ← twoDigits? 0 99 text
  let (year, text) ← twoDigits? 0 99 text
  let (month, text) ← twoDigits? 1 12 (← after? '-' text)
  let (_, text) ← twoDigits? 1 (daysOfMonth (100 * century + year) month) (← after? '-' text)
  return text

/-- The text after a time, which may count fractions of a second and a leap second. -/
def afterTime? (text : List Char) : Option (List Char) := do
  let (_, text) ← twoDigits? 0 23 text
  let (_, text) ← twoDigits? 0 59 (← after? ':' text)
  let (_, text) ← twoDigits? 0 60 (← after? ':' text)
  match text with
  | '.' :: rest =>
    match rest.span isDigit with
    | ([], _) => none
    | (_, rest) => return rest
  | _ => return text

/-- How far a time is from universal time. -/
def isOffset : List Char → Bool
  | ['Z'] => true
  | ['z'] => true
  | sign :: text => (sign = '+' || sign = '-') && (do
      let (_, text) ← twoDigits? 0 23 text
      let (_, text) ← twoDigits? 0 59 (← after? ':' text)
      return text) == some []
  | [] => false

/-- A date, a time, or both with or without an offset. -/
def isMoment (text : List Char) : Bool :=
  match afterDate? text with
  | some [] => true
  | some (c :: rest) => (c = 'T' || c = 't' || c = ' ') &&
    match afterTime? rest with
    | some offset => offset = [] || isOffset offset
    | none => false
  | none => afterTime? text == some []

/-! ## Any of them -/

def scalar? (text : List Char) : Option Value :=
  if text = ['t', 'r', 'u', 'e'] then some (.bool true)
  else if text = ['f', 'a', 'l', 's', 'e'] then some (.bool false)
  else if isMoment text || isFloat text then some .scalar
  else integer? text

end ColumnOrigin.Toml
