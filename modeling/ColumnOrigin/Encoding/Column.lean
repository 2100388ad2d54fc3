import ColumnOrigin.Column
import ColumnOrigin.Data.Decoder

/-! Columns as data. -/

namespace ColumnOrigin.Column

def encode (c : Column) : Value := .record ([
  ("number", .natural c.number),
  ("name", .string c.name),
  ("label", .string c.label),
  ("data_type", .string c.dataType)] ++
  Value.whenSome "default_value" c.defaultValue ++ [
  ("table_name", .string c.tableName),
  ("qualified_table_name", .string c.qualifiedTableName),
  ("read_only", .bool c.readOnly),
  ("primary_key", .bool c.primaryKey),
  ("sequence", .bool c.sequence)] ++
  Value.whenSome "sequence_name" c.sequenceName)

def decoder : Decoder Column := .record fun format fields => do
  let (number, fields) ← fields.take format "number" .word64 .required
  let (name, fields) ← fields.take format "name" .string .required
  let (label, fields) ← fields.take format "label" .string .required
  let (dataType, fields) ← fields.take format "data_type" .string .required
  let (defaultValue, fields) ←
    fields.take format "default_value" (.option .string) (.inRecord none)
  let (tableName, fields) ← fields.take format "table_name" .string .required
  let (qualifiedTableName, fields) ←
    fields.take format "qualified_table_name" .string .required
  let (readOnly, fields) ← fields.take format "read_only" .bool .required
  let (primaryKey, fields) ← fields.take format "primary_key" .bool .required
  let (sequence, fields) ← fields.take format "sequence" .bool .required
  let (sequenceName, fields) ←
    fields.take format "sequence_name" (.option .string) (.inRecord none)
  pure (⟨number, name, label, dataType, defaultValue, tableName, qualifiedTableName, readOnly,
    primaryKey, sequence, sequenceName⟩, fields)

end ColumnOrigin.Column
