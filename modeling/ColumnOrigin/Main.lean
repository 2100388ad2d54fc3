import ColumnOrigin.Command.Run

/-! The program, with files on disk. -/

namespace ColumnOrigin.Command

def faultOf : IO.Error → FileFault
  | .noFileOrDirectory _ _ _ => .missing
  | .inappropriateType _ 21 _ => .isDirectory
  | .inappropriateType _ _ _ => .notDirectory
  | .invalidArgument _ 36 _ => .nameTooLong
  | e => .other (toString e)

/-- The outcome of an action on a file. -/
def tryFile {α : Type} (action : IO α) : IO (Except FileFault α) := do
  match ← action.toBaseIO with
  | .ok a => return .ok a
  | .error e => return .error (faultOf e)

def filesOnDisk : Files IO where
  read path := tryFile (IO.FS.readBinFile path)
  exists? path := do
    match ← tryFile (IO.FS.readBinFile path) with
    | .error .missing => return false
    | .error .notDirectory => return false
    | _ => return true
  write path text := tryFile (IO.FS.writeFile path text)

/-- The variables of the process, where the system shows them in a file; otherwise those that the
program itself looks at. -/
def processEnvironment : IO Environment := do
  match ← tryFile (IO.FS.readFile "/proc/self/environ") with
  | .ok text =>
    return .ofEntries ((text.splitOn "\x00").filterMap fun entry =>
      match entry.splitOn "=" with
      | name :: value :: more => some (name, "=".intercalate (value :: more))
      | _ => none)
  | .error _ =>
    let names := [configPathVariable, "CLICOLOR_FORCE", "NO_COLOR", "CLICOLOR"]
    let entries ← names.filterMapM fun name => return (← IO.getEnv name).map (name, ·)
    return .ofEntries entries

end ColumnOrigin.Command

open ColumnOrigin.Command in
def main (arguments : List String) : IO UInt32 := do
  let isTerminal ← (← IO.getStdout).isTty
  let output ← run filesOnDisk (← processEnvironment) isTerminal arguments
  IO.print output.out
  IO.eprint (output.err.getD usageText)
  return output.exitCode.toUInt32
