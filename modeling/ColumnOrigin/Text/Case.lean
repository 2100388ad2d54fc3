import ColumnOrigin.Text.CaseData

/-! Upper and lower case of a text by the default mappings of Unicode, without a locale and without
normalisation. A mapping may lengthen a text (`ß` becomes `SS`), and the lower case of a capital
sigma depends on its neighbours. -/

namespace ColumnOrigin.Text

def mapByTable (runs : List CaseRun) (expansions : List (Nat × List Char)) (c : Char) :
    List Char :=
  match expansions.lookup c.toNat with
  | some image => image
  | none =>
    match runs.find? (·.covers c.toNat) with
    | some r => [Char.ofNat (r.map c.toNat)]
    | none => [c]

def upperChar (c : Char) : List Char := mapByTable upperRuns upperExpansions c

/-- The lower case of a character that stands alone. -/
def lowerChar (c : Char) : List Char := mapByTable lowerRuns lowerExpansions c

def isCased (c : Char) : Bool := inRanges casedRanges c

def isCaseIgnorable (c : Char) : Bool := inRanges caseIgnorableRanges c

/-- Past the case-ignorable characters, the first one is cased. -/
def meetsCased : List Char → Bool
  | [] => false
  | c :: rest => if isCaseIgnorable c then meetsCased rest else isCased c

/-- A capital sigma ends a word when a cased character stands before it and none after it.
`before` is read backwards from the sigma. -/
def endsWord (before after : List Char) : Bool := meetsCased before && !meetsCased after

/-- The lower case of the character between `before` (read backwards) and `after`. -/
def lowerBetween (before : List Char) (c : Char) (after : List Char) : List Char :=
  if c = 'Σ' then [if endsWord before after then 'ς' else 'σ'] else lowerChar c

/-- The lower case of a text that follows `before` (read backwards). -/
def lowerAfter : List Char → List Char → List Char
  | _, [] => []
  | before, c :: rest => lowerBetween before c rest ++ lowerAfter (c :: before) rest

def upper (s : String) : String := String.ofList (s.toList.flatMap upperChar)

def lower (s : String) : String := String.ofList (lowerAfter [] s.toList)

end ColumnOrigin.Text
