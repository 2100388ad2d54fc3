/-! The tokens of a SQL text. -/

namespace ColumnOrigin.Sql

/-- An identifier or keyword. `keyword` is its upper case, by which keywords are recognised; a
quoted word is never one, and has none. -/
structure Word where
  text : String
  keyword : String
  /-- The character that quotes it. -/
  quote : Option Char
deriving Repr, DecidableEq

/-- Literals whose content has no meaning to the parser. -/
inductive LiteralKind where
  | national
  | hex
  | bytes
  | raw
  | dollarQuoted
deriving Repr, DecidableEq

inductive Token where
  | word (w : Word)
  /-- A number, with the suffix `L` or without. -/
  | number (digits : String) (isLong : Bool)
  /-- A string in single quotes. -/
  | string (text : String)
  /-- A string in double quotes, where those do not delimit identifiers. -/
  | wideString (text : String)
  /-- A string written `E'…'`. -/
  | escapedString (text : String)
  /-- A string written `U&'…'`. -/
  | unicodeString (text : String)
  | literal (kind : LiteralKind)
  /-- One of `?` and `$`, with what identifies it. -/
  | placeholder (text : String)
  /-- Punctuation or an operator. -/
  | symbol (text : String)
  /-- A run of operator characters that is no operator of the language itself. -/
  | operatorRun (text : String)
  /-- A character that no rule begins with. -/
  | stray (c : Char)
deriving Repr, DecidableEq

end ColumnOrigin.Sql
