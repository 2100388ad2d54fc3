import ColumnOrigin.Config
import ColumnOrigin.Data.Toml.Parser
import ColumnOrigin.Encoding.Diagnostic
import ColumnOrigin.Encoding.Dialect
import ColumnOrigin.Encoding.Names

/-! Configurations as data and as TOML text. -/

namespace ColumnOrigin

namespace Resource

def encode (r : Resource) : Value := .record ([
  ("name", .string r.name),
  ("query", .string r.query),
  ("table", .string r.table)] ++
  Value.whenSome "database" r.database)

def decoder : Decoder Resource := .record fun format fields => do
  let (name, fields) ← fields.take format "name" .string .required
  let (query, fields) ← fields.take format "query" .string .required
  let (table, fields) ← fields.take format "table" .string .required
  let (database, fields) ← fields.take format "database" (.option .string) (.anywhere none)
  pure (⟨name, query, table, database⟩, fields)

end Resource

namespace SeverityOverrides

def encode (s : SeverityOverrides) : Value :=
  .record [("overrides", s.overrides.encode Severity.encode)]

def decoder : Decoder SeverityOverrides := .record fun format fields => do
  let (overrides, fields) ←
    fields.take format "overrides" (NameMap.decoder Severity.decoder) .required
  pure (⟨overrides⟩, fields)

end SeverityOverrides

namespace Config

def encode (c : Config) : Value := .record [
  ("dialect", c.database.encode),
  ("severity", c.severities.encode),
  ("resources", .list (c.resources.map Resource.encode))]

/-- Whatever is not configured has its default. -/
def decoder : Decoder Config := .record fun format fields => do
  let (database, fields) ←
    fields.take format "dialect" Database.decoder (.anywhere default)
  let (severities, fields) ←
    fields.take format "severity" SeverityOverrides.decoder (.anywhere default)
  let (resources, fields) ←
    fields.take format "resources" (.list Resource.decoder) (.anywhere [])
  pure (⟨database, severities, resources⟩, fields)

/-- The configuration that a TOML text writes, if it is a valid one. -/
def ofToml (text : String) : Except ConfigError Config := do
  match (Toml.parse? text).bind (decoder .toml) with
  | some c =>
    c.validate
    return c
  | none => throw .malformed

/-- The configuration in a file, given the bytes in it or the reason why there are none. -/
def ofFile (content : Except FileFault ByteArray) : Except ConfigError Config :=
  match content with
  | .error fault => .error (.unreadable fault)
  | .ok bytes =>
    match String.fromUTF8? bytes with
    | some text => ofToml text
    | none => .error (.unreadable .notText)

end Config

end ColumnOrigin
