import ColumnOrigin.Data.Value

/-! The tables of a TOML document while it is read. A document is a list of sections, each with a
header and pairs of a dotted key and a value. What a section may add depends on how the tables
that it reaches came about. -/

namespace ColumnOrigin.Toml

/-- How a table came about. -/
inductive Making where
  /-- It has a header of its own. -/
  | byHeader
  /-- Only headers below it name it. -/
  | inHeader
  /-- Dotted keys name it. -/
  | inKey
deriving DecidableEq

inductive Item where
  | value (v : Value)
  | table (making : Making) (entries : List (String × Item))
  /-- The elements of an array of tables, each with a header of its own, and the last of them. -/
  | tables (earlier : List (List (String × Item))) (last : List (String × Item))

/-- What a table holds, in the order in which it is written. -/
abbrev Entries := List (String × Item)

/-- A dotted key: the tables on the way, and the name at its end. -/
structure Key where
  path : List String
  name : String

namespace Entries

def replace (es : Entries) (name : String) (item : Item) : Entries :=
  es.map fun e => if e.1 = name then (name, item) else e

/-- Adds a value under a dotted key. A table on the way may not have a header of its own, and the
last one may not be named by headers at all, except that both may be elements of an array. -/
def insert (name : String) (v : Value) : List String → Entries → Option Entries
  | [], es => if (es.lookup name).isSome then none else some (es ++ [(name, .value v)])
  | k :: path, es =>
    match es.lookup k with
    | none => (insert name v path []).map fun inner => es ++ [(k, .table .inKey inner)]
    | some (.table making inner) =>
      if making = .inKey || (making = .inHeader && path ≠ []) then
        (insert name v path inner).map fun inner => es.replace k (.table making inner)
      else none
    | some (.tables earlier last) =>
      if path = [] then none
      else (insert name v path last).map fun last => es.replace k (.tables earlier last)
    | some (.value _) => none

/-- Adds all the pairs to a table. -/
def insertAll (es : Entries) (pairs : List (Key × Value)) : Option Entries :=
  pairs.foldlM (fun es p => insert p.1.name p.2 p.1.path es) es

/-- Changes the table at the end of a path. Tables on the way are made where there are none; an
array on the way stands for its last element. -/
def modify (change : Entries → Option Entries) : List String → Entries → Option Entries
  | [], es => change es
  | k :: path, es =>
    match es.lookup k with
    | none => (modify change path []).map fun inner => es ++ [(k, .table .inHeader inner)]
    | some (.table making inner) =>
      (modify change path inner).map fun inner => es.replace k (.table making inner)
    | some (.tables earlier last) =>
      (modify change path last).map fun last => es.replace k (.tables earlier last)
    | some (.value _) => none

end Entries

/-- What a header introduces. -/
inductive HeaderKind where
  | table
  /-- One more element of an array. -/
  | element

structure Header where
  kind : HeaderKind
  key : Key

structure Section where
  header : Header
  pairs : List (Key × Value)

/-- Adds a section. A table has one header, and its header may follow those of tables in it. -/
def Section.addTo (s : Section) : Entries → Option Entries :=
  Entries.modify (fun es =>
    let name := s.header.key.name
    match s.header.kind, es.lookup name with
    | .table, none =>
      (Entries.insertAll [] s.pairs).map fun inner => es ++ [(name, .table .byHeader inner)]
    | .table, some (.table .inHeader inner) =>
      (Entries.insertAll inner s.pairs).map fun inner =>
        es.filter (·.1 ≠ name) ++ [(name, .table .byHeader inner)]
    | .element, none =>
      (Entries.insertAll [] s.pairs).map fun inner => es ++ [(name, .tables [] inner)]
    | .element, some (.tables earlier last) =>
      (Entries.insertAll [] s.pairs).map fun inner =>
        es.replace name (.tables (earlier ++ [last]) inner)
    | _, _ => none) s.header.key.path

/-! ## As values -/

mutual

/-- An item as a value; `wrap` says what a table is as a value. -/
def Item.toValue (wrap : List (String × Value) → Value) : Item → Value
  | .value v => v
  | .table _ es => wrap (fieldsOf wrap es)
  | .tables earlier last => .list (elementsOf wrap earlier ++ [wrap (fieldsOf wrap last)])

def fieldsOf (wrap : List (String × Value) → Value) :
    List (String × Item) → List (String × Value)
  | [] => []
  | (name, item) :: rest => (name, item.toValue wrap) :: fieldsOf wrap rest

def elementsOf (wrap : List (String × Value) → Value) :
    List (List (String × Item)) → List Value
  | [] => []
  | es :: rest => wrap (fieldsOf wrap es) :: elementsOf wrap rest

end

end ColumnOrigin.Toml
