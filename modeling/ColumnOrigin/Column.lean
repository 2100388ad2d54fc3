import ColumnOrigin.Dialect.Sequence

/-! What is known about one column of a resource's result. -/

namespace ColumnOrigin

structure Column where
  /-- The place in the result, from one. -/
  number : Nat
  name : String
  label : String
  dataType : String
  /-- The text of its default. -/
  defaultValue : Option String := none
  tableName : String
  /-- The table as generated SQL names it. -/
  qualifiedTableName : String := tableName
  readOnly : Bool := false
  primaryKey : Bool := false
  /-- Its default is drawn from a sequence. -/
  sequence : Bool := false
  sequenceName : Option String := none
deriving Repr, DecidableEq

namespace Column

def withSequence (c : Column) (s : SequenceDefault) : Column :=
  { c with sequence := true, sequenceName := s.name }

/-- Generated SQL may write the column. -/
def isWritable (c : Column) : Bool := !c.readOnly && !c.sequence

end Column

end ColumnOrigin
