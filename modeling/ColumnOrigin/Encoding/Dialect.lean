import ColumnOrigin.Data.Decoder
import ColumnOrigin.Dialect.Basic

/-! Dialects and their parts as data. -/

namespace ColumnOrigin

namespace Database

def text : Database → String
  | .oracle => "oracle"
  | .postgres => "postgres"
  | .mySql => "mysql"
  | .ansi => "ansi"

def encode (d : Database) : Value := .string d.text

def decoder : Decoder Database :=
  .oneOf [("oracle", .oracle), ("postgres", .postgres), ("mysql", .mySql), ("ansi", .ansi)]

end Database

namespace CaseFolding

def text : CaseFolding → String
  | .upper => "upper"
  | .lower => "lower"
  | .preserve => "preserve"

def encode (f : CaseFolding) : Value := .string f.text

def decoder : Decoder CaseFolding :=
  .oneOf [("upper", .upper), ("lower", .lower), ("preserve", .preserve)]

end CaseFolding

namespace SequenceStyle

def text : SequenceStyle → String
  | .nextvalCall => "nextval_call"
  | .oracleNextval => "oracle_nextval"
  | .autoIncrement => "auto_increment"

def encode (s : SequenceStyle) : Value := .string s.text

def decoder : Decoder SequenceStyle :=
  .oneOf [("nextval_call", .nextvalCall), ("oracle_nextval", .oracleNextval),
    ("auto_increment", .autoIncrement)]

end SequenceStyle

namespace SequenceDefault

def encode (s : SequenceDefault) : Value := .record [("name", .ofOption s.name)]

def decoder : Decoder SequenceDefault := .record fun format fields => do
  let (name, fields) ← fields.take format "name" (.option .string) (.inRecord none)
  pure (⟨name⟩, fields)

end SequenceDefault

namespace TableQualification

def text : TableQualification → String
  | .bare => "bare"
  | .schemaDotTable => "schema_dot_table"

def encode (q : TableQualification) : Value := .string q.text

def decoder : Decoder TableQualification :=
  .oneOf [("bare", .bare), ("schema_dot_table", .schemaDotTable)]

end TableQualification

namespace PaginationStyle

def text : PaginationStyle → String
  | .limitOffset => "limit_offset"
  | .offsetFetch => "offset_fetch"

def encode (p : PaginationStyle) : Value := .string p.text

def decoder : Decoder PaginationStyle :=
  .oneOf [("limit_offset", .limitOffset), ("offset_fetch", .offsetFetch)]

end PaginationStyle

namespace Dialect

def encode (d : Dialect) : Value := .record [
  ("config", d.database.encode),
  ("case_folding", d.caseFolding.encode),
  ("columns_query", .string d.columnsQuery),
  ("primary_key_query", .string d.primaryKeyQuery),
  ("sequence_style", d.sequenceStyle.encode),
  ("qualification", d.qualification.encode),
  ("pagination", d.pagination.encode)]

end Dialect

end ColumnOrigin
