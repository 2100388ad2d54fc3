/-! Digits and the numbers that they write, up to base sixteen. -/

namespace ColumnOrigin.Text

def isDigit (c : Char) : Bool := '0' ≤ c && c ≤ '9'

def isOctalDigit (c : Char) : Bool := '0' ≤ c && c ≤ '7'

def isHexDigit (c : Char) : Bool :=
  isDigit c || ('a' ≤ c && c ≤ 'f') || ('A' ≤ c && c ≤ 'F')

/-- What a digit counts for; letters of both cases go on after nine. -/
def digitValue (c : Char) : Nat :=
  if isDigit c then c.toNat - 48 else if c.toNat < 97 then c.toNat - 55 else c.toNat - 87

def ofDigits (base : Nat) (digits : List Char) : Nat :=
  digits.foldl (fun n c => n * base + digitValue c) 0

/-- The number that `count` hexadecimal digits write, and the text after them. -/
def hexNumber? (count : Nat) (text : List Char) : Option (Nat × List Char) :=
  let digits := text.take count
  if digits.length = count && digits.all isHexDigit then
    some (ofDigits 16 digits, text.drop count)
  else none

/-- The character whose code point `count` hexadecimal digits write, and the text after them. Half
of a surrogate pair is no character. -/
def hexCharacter? (count : Nat) (text : List Char) : Option (Char × List Char) := do
  let (n, rest) ← hexNumber? count text
  if n.isValidChar then some (Char.ofNat n, rest) else none

end ColumnOrigin.Text
