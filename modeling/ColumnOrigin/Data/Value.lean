/-! The data that configuration files and reports are written in: what a JSON or a TOML document
says once its notation is gone. -/

namespace ColumnOrigin

/-- A document or a part of one. Records keep the order in which their fields are written. -/
inductive Value where
  | null
  | bool (b : Bool)
  /-- A natural number, written without fraction, exponent or sign. -/
  | natural (n : Nat)
  /-- Any other number, or a date: nothing in this library has a field of that kind, so only its
  presence matters. -/
  | scalar
  | string (s : String)
  | list (items : List Value)
  | record (fields : List (String × Value))
  /-- A record that is not written in one place: its fields stand under headers of their own or
  have dotted names. -/
  | section (fields : List (String × Value))
deriving Repr, Inhabited

namespace Value

/-- A field of a record; of two fields with one name the later counts. -/
def field? (fields : List (String × Value)) (name : String) : Option Value :=
  (fields.reverse.find? (·.1 == name)).map (·.2)

/-- A string, or null where there is none. -/
def ofOption : Option String → Value
  | some s => .string s
  | none => .null

/-- The fields of a record that are there only when they are set. -/
def whenSome (name : String) : Option String → List (String × Value)
  | some s => [(name, .string s)]
  | none => []

end Value

end ColumnOrigin
