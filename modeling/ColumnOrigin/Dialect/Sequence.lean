import ColumnOrigin.Text.Blank
import ColumnOrigin.Text.WordChar

/-! Column defaults that draw from a sequence. A default is only known by its text, and each
database writes such texts in its own way. -/

namespace ColumnOrigin

/-- A default drawn from a sequence, by name where the text gives it. -/
structure SequenceDefault where
  name : Option String
deriving Repr, DecidableEq

namespace SequenceDefault

def named (name : String) : SequenceDefault := ⟨some name⟩

def anonymous : SequenceDefault := ⟨none⟩

end SequenceDefault

/-- How a database writes a default that is drawn from a sequence. -/
inductive SequenceStyle where
  /-- The call `nextval('name'…`. -/
  | nextvalCall
  /-- That call, or `[owner.]name.nextval`. -/
  | oracleNextval
  /-- The attribute `auto_increment`, which names no sequence. -/
  | autoIncrement
deriving Repr, DecidableEq

namespace SequenceStyle

open Text (isBlank isWordChar)

def skipBlank (cs : List Char) : List Char := cs.dropWhile isBlank

/-- The lower case of an ASCII letter; any other character stays. -/
def asciiLower (c : Char) : Char := if 'A' ≤ c ∧ c ≤ 'Z' then Char.ofNat (c.toNat + 32) else c

/-- The text after `word`, which may be in any ASCII case. `word` itself is in lower case. -/
def after? : (word text : List Char) → Option (List Char)
  | [], text => some text
  | _ :: _, [] => none
  | w :: word, c :: text => if asciiLower c = w then after? word text else none

/-- The text after one character that has to be `c`. -/
def afterChar? (c : Char) : List Char → Option (List Char)
  | [] => none
  | d :: text => if d = c then some text else none

def nextval : List Char := "nextval".toList

/-- The name in `nextval('name'…`: all up to the second quote, and at least one character. -/
def callName? (text : List Char) : Option (List Char) := do
  let text ← after? nextval (skipBlank text)
  let text ← afterChar? '(' (skipBlank text)
  let text ← afterChar? '\'' (skipBlank text)
  let name := text.takeWhile (· ≠ '\'')
  let _ ← afterChar? '\'' (text.dropWhile (· ≠ '\''))
  if name = [] then none else some name

/-- A character of a sequence's or an owner's name: a word character, `$` or `#`. -/
def isNameChar (c : Char) : Bool := isWordChar c || c = '$' || c = '#'

/-- The text without the double quote it may start with. -/
def dropQuote : List Char → List Char
  | '"' :: text => text
  | text => text

/-- A name with or without a double quote on either side, and the text after it. -/
def name? (text : List Char) : Option (List Char × List Char) :=
  match (dropQuote text).span isNameChar with
  | ([], _) => none
  | (name, rest) => some (name, dropQuote rest)

/-- The text is `nextval` and then only white space. -/
def isNextval (text : List Char) : Bool :=
  match after? nextval text with
  | some rest => rest.all isBlank
  | none => false

/-- The name in `[owner.]name.nextval`, which has to be the whole text. -/
def dottedName? (text : List Char) : Option (List Char) := do
  let (first, rest) ← name? (skipBlank text)
  let rest ← afterChar? '.' rest
  if isNextval rest then some first
  else
    let (second, rest) ← name? rest
    let rest ← afterChar? '.' rest
    if isNextval rest then some second else none

def autoIncrementWord : List Char := "auto_increment".toList

/-- The text does not go on with a word character. -/
def endsHere : List Char → Bool
  | [] => true
  | c :: _ => !isWordChar c

/-- Whether `auto_increment` is a word of the text. `inWord` says whether the character before the
text is a word character. -/
def hasAutoIncrement (inWord : Bool) : List Char → Bool
  | [] => false
  | c :: text =>
    (!inWord && ((after? autoIncrementWord (c :: text)).map endsHere).getD false) ||
      hasAutoIncrement (isWordChar c) text

/-- The sequence that a default's text draws from, if it draws from one. -/
def detect (style : SequenceStyle) (text : String) : Option SequenceDefault :=
  let named := fun name : List Char => SequenceDefault.named (String.ofList name)
  match style with
  | .nextvalCall => (callName? text.toList).map named
  | .oracleNextval => ((callName? text.toList) <|> (dottedName? text.toList)).map named
  | .autoIncrement => if hasAutoIncrement false text.toList then some .anonymous else none

end SequenceStyle

end ColumnOrigin
