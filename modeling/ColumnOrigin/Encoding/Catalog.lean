import ColumnOrigin.Catalog.Table
import ColumnOrigin.Data.Decoder

/-! Catalog rows as data. -/

namespace ColumnOrigin.CatalogColumn

def encode (c : CatalogColumn) : Value := .record [
  ("name", .string c.name),
  ("data_type", .string c.dataType),
  ("default_value", .ofOption c.defaultValue),
  ("extra", .ofOption c.extra)]

def decoder : Decoder CatalogColumn := .record fun format fields => do
  let (name, fields) ← fields.take format "name" .string .required
  let (dataType, fields) ← fields.take format "data_type" .string .required
  let (defaultValue, fields) ←
    fields.take format "default_value" (.option .string) (.inRecord none)
  let (extra, fields) ← fields.take format "extra" (.option .string) (.inRecord none)
  pure (⟨name, dataType, defaultValue, extra⟩, fields)

end ColumnOrigin.CatalogColumn
