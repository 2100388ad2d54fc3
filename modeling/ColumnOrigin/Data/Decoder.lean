import ColumnOrigin.Data.Value

/-! How typed records are read from a `Value`.

A record is read from a `Value.record`, whose unknown fields do not matter, or from a `Value.list`,
whose items are the fields in declaration order. `Presence` says what happens to a field that is
not there. -/

namespace ColumnOrigin

/-- The notation a value was read from. It matters in one place: how the case of an enumeration is
written when it stands as the only field of a record. -/
inductive Format where
  | json
  | toml
deriving Repr, DecidableEq

/-- The content of a case that carries nothing: `null` in JSON, which TOML does not have, and an
empty table or array in TOML. -/
def Format.isNothing : Format → Value → Bool
  | .json, .null => true
  | .toml, .record [] => true
  | .toml, .section [] => true
  | .toml, .list [] => true
  | _, _ => false

abbrev Decoder (α : Type) := Format → Value → Option α

/-- What a field that is not written stands for. -/
inductive Presence (α : Type) where
  /-- It has to be written. -/
  | required
  /-- It may be left out of a record, but not of a list. -/
  | inRecord (absent : α)
  /-- It may be left out. -/
  | anywhere (absent : α)

/-- The value of a field that a record does not have. -/
def Presence.whenUnnamed {α : Type} : Presence α → Option α
  | .required => none
  | .inRecord a => some a
  | .anywhere a => some a

/-- The value of a field that a list is too short for. -/
def Presence.whenBeyond {α : Type} : Presence α → Option α
  | .required => none
  | .inRecord _ => none
  | .anywhere a => some a

/-- The fields of a record as they are read: by name, or one after the other. -/
inductive Fields where
  | named (fields : List (String × Value))
  | placed (items : List Value)

namespace Fields

def ofValue : Value → Option Fields
  | .record fields => some (.named fields)
  | .section fields => some (.named fields)
  | .list items => some (.placed items)
  | _ => none

/-- Reads the next field and leaves the fields after it. -/
def take {α : Type} (format : Format) (name : String) (decode : Decoder α)
    (presence : Presence α) : Fields → Option (α × Fields)
  | .named fields =>
    match Value.field? fields name with
    | some v => (decode format v).map (·, .named fields)
    | none => presence.whenUnnamed.map (·, .named fields)
  | .placed (v :: items) => (decode format v).map (·, .placed items)
  | .placed [] => presence.whenBeyond.map (·, .placed [])

/-- A list with more items than the record has fields is refused in JSON; TOML leaves them alone. -/
def finish : Format → Fields → Option Unit
  | .json, .placed (_ :: _) => none
  | _, _ => some ()

end Fields

namespace Decoder

def string : Decoder String
  | _, .string s => some s
  | _, _ => none

def bool : Decoder Bool
  | _, .bool b => some b
  | _, _ => none

/-- A natural number below `bound`. -/
def natural (bound : Nat) : Decoder Nat
  | _, .natural n => if n < bound then some n else none
  | _, _ => none

/-- A number of 32 bits. -/
def word32 : Decoder Nat := natural (Nat.pow 2 32)

/-- A number of 64 bits. -/
def word64 : Decoder Nat := natural (Nat.pow 2 64)

/-- Null stands for nothing. -/
def option {α : Type} (decode : Decoder α) : Decoder (Option α)
  | _, .null => some none
  | format, v => (decode format v).map some

def list {α : Type} (decode : Decoder α) : Decoder (List α)
  | format, .list items => items.mapM (decode format)
  | _, _ => none

/-- The fields of a record with arbitrary names, in the order in which they are written. -/
def entries {α : Type} (decode : Decoder α) : Decoder (List (String × α))
  | format, .record fields => fields.mapM fun f => (decode format f.2).map (f.1, ·)
  | format, .section fields => fields.mapM fun f => (decode format f.2).map (f.1, ·)
  | _, _ => none

/-- The case of an enumeration, by its name: as a string, or as a field that holds nothing. That is
the only field of a record, and the first field of a section. -/
def oneOf {α : Type} (cases : List (String × α)) : Decoder α
  | _, .string s => cases.lookup s
  | format, .record [(s, v)] => if format.isNothing v then cases.lookup s else none
  | format, .section ((s, v) :: _) => if format.isNothing v then cases.lookup s else none
  | _, _ => none

/-- The decoder of a record from that of its fields. -/
def record {α : Type} (read : Format → Fields → Option (α × Fields)) : Decoder α :=
  fun format v => do
    let (a, rest) ← read format (← Fields.ofValue v)
    rest.finish format
    pure a

end Decoder

end ColumnOrigin
