/-! Files, as far as commands need them. -/

namespace ColumnOrigin

/-- Why a file cannot be read or written. -/
inductive FileFault where
  | missing
  | notDirectory
  | isDirectory
  | nameTooLong
  | notText
  /-- Anything else, in the system's words. -/
  | other (words : String)
deriving Repr, DecidableEq

namespace FileFault

def text : FileFault → String
  | .missing => "No such file or directory (os error 2)"
  | .notDirectory => "Not a directory (os error 20)"
  | .isDirectory => "Is a directory (os error 21)"
  | .nameTooLong => "File name too long (os error 36)"
  | .notText => "stream did not contain valid UTF-8"
  | .other words => words

end FileFault

/-- What can be done with the file at a path. -/
structure Files (m : Type → Type) where
  read : String → m (Except FileFault ByteArray)
  /-- There is a file or a directory. -/
  exists? : String → m Bool
  write : String → String → m (Except FileFault Unit)

end ColumnOrigin
