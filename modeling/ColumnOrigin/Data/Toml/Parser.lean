import ColumnOrigin.Data.Toml.Quoted
import ColumnOrigin.Data.Toml.Scalar
import ColumnOrigin.Data.Toml.Table

/-! Values from TOML text, version 1.0. -/

namespace ColumnOrigin.Toml

/-- Arrays and tables in place are nested no deeper, and dotted keys have no more parts. -/
def depthBound : Nat := 79

namespace Reader

/-! ## Keys -/

def isBareKeyPart (c : Char) : Bool :=
  ('A' ≤ c && c ≤ 'Z') || ('a' ≤ c && c ≤ 'z') || Text.isDigit c || c = '-' || c = '_'

/-- One part of a key, with the blanks around it. -/
def keyPart : Reader String := do
  blanks
  let part ←
    if ← char? '"' then lineString .basic
    else if ← char? '\'' then lineString .literal
    else
      let bare ← takeWhile isBareKeyPart
      if bare = [] then refuse else pure (String.ofList bare)
  blanks
  return part

/-- A key of up to `bound` parts. -/
def keyUpTo : Nat → Reader Key
  | 0 => refuse
  | bound + 1 => do
    let part ← keyPart
    if ← char? '.' then
      let key ← keyUpTo bound
      return { key with path := part :: key.path }
    else return ⟨[], part⟩

def key : Reader Key := keyUpTo depthBound

/-! ## Values -/

def isScalarPart (c : Char) : Bool := isBareKeyPart c || c = '+' || c = '.' || c = ':'

/-- A value that is written without quotes or brackets. -/
def scalar : Reader Value := do
  let text ← takeWhile isScalarPart
  let text ← match ← get with
    | ' ' :: c :: _ =>
      if Text.isDigit c && afterDate? text = some [] then do
        let _ ← char? ' '
        pure (text ++ ' ' :: (← takeWhile isScalarPart))
      else pure text
    | _ => pure text
  match scalar? text with
  | some v => return v
  | none => refuse

/-- The items of an array and its closing bracket; a comma may stand after the last item. `fuel`
bounds the items. -/
def items (value : Reader Value) : Nat → Reader (List Value)
  | 0 => refuse
  | fuel + 1 => do
    gap
    if ← char? ']' then return []
    let v ← value
    gap
    if ← char? ',' then return v :: (← items value fuel)
    expect ']'
    return [v]

/-- A key, the sign after it and its value. -/
def pair (value : Reader Value) : Reader (Key × Value) := do
  let k ← key
  expect '='
  blanks
  return (k, ← value)

/-- One pair or more of a table in place and its closing brace. `fuel` bounds the pairs. -/
def pairs (value : Reader Value) : Nat → Reader (List (Key × Value))
  | 0 => refuse
  | fuel + 1 => do
    let p ← pair value
    blanks
    if ← char? ',' then return p :: (← pairs value fuel)
    expect '\x7d'
    return [p]

/-- A table in place, whose opening brace has been read. -/
def tableInPlace (value : Reader Value) : Reader Value := do
  blanks
  if ← char? '\x7d' then return .record []
  let ps ← pairs value ((← get).length + 1)
  match Entries.insertAll [] ps with
  | some es => return .record (fieldsOf .record es)
  | none => refuse

/-- A value without brackets. -/
def flat : Reader Value := do
  match ← peek with
  | some '"' => return .string (← quoted .basic)
  | some '\'' => return .string (← quoted .literal)
  | _ => scalar

/-- A value with at most `levels` levels of brackets. -/
def value : Nat → Reader Value
  | 0 => flat
  | levels + 1 => do
    if ← char? '[' then return .list (← items (value levels) ((← get).length + 1))
    else if ← char? '\x7b' then tableInPlace (value levels)
    else flat

/-! ## Documents -/

/-- A header, whose first bracket has been read. -/
def header : Reader Header := do
  if ← char? '[' then
    let k ← key
    expect ']'
    expect ']'
    return ⟨.element, k⟩
  else
    let k ← key
    expect ']'
    return ⟨.table, k⟩

/-- The pairs before the first header, and the sections. `fuel` bounds the lines. -/
def sections : Nat → Reader (List (Key × Value) × List Section)
  | 0 => refuse
  | fuel + 1 => do
    blanks
    match ← peek with
    | none => return ([], [])
    | some c =>
      if c = '#' || c = '\n' || c = '\r' then
        restOfLine
        sections fuel
      else if ← char? '[' then
        let h ← header
        restOfLine
        let (ps, ss) ← sections fuel
        return ([], ⟨h, ps⟩ :: ss)
      else
        let p ← pair (value depthBound)
        restOfLine
        let (ps, ss) ← sections fuel
        return (p :: ps, ss)

end Reader

/-- What a document says. A mark of the byte order at its start does not count. -/
def parse? (text : String) : Option Value := do
  let text := match text.toList with
    | '\ufeff' :: rest => rest
    | text => text
  let ((pairs, sections), _) ← (Reader.sections (text.length + 1)).run text
  let root ← Entries.insertAll [] pairs
  let root ← sections.foldlM (fun es s => s.addTo es) root
  return .section (fieldsOf .section root)

end ColumnOrigin.Toml
