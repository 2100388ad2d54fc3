import ColumnOrigin.Data.Decoder
import ColumnOrigin.Names

/-! Maps of names as data: records with a field for each entry, in the order of the names. -/

namespace ColumnOrigin.NameMap

def encode {α : Type} (encodeItem : α → Value) (m : NameMap α) : Value :=
  .record (m.toList.map fun e => (e.1, encodeItem e.2))

def decoder {α : Type} (item : Decoder α) : Decoder (NameMap α) := fun format v =>
  (Decoder.entries item format v).map ofEntries

def encodeStrings (m : NameMap String) : Value := encode .string m

def stringsDecoder : Decoder (NameMap String) := decoder .string

end ColumnOrigin.NameMap
