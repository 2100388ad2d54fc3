import ColumnOrigin.Files.Basic
import ColumnOrigin.Names

/-! A directory in memory. -/

namespace ColumnOrigin

/-- Texts by their paths below the directory. A directory below is there as long as a path leads
through it. -/
structure Directory where
  files : NameMap String

namespace Directory

/-- What the last name of a path stands for where it is no directory. -/
inductive Entry where
  | file (path text : String)
  /-- The device that is empty and loses what is written to it. -/
  | sink
  /-- Nothing, in a directory that is there. -/
  | vacant (path : String)
  /-- Nothing that could be there. -/
  | nameTooLong

/-- What a path leads to. -/
inductive Place where
  | directory
  /-- With slashes at its end the path asks for a directory. -/
  | entry (e : Entry) (asDirectory : Bool)
  | unreachable (fault : FileFault)

/-- The bytes that a path may have, and those that a name in it may have. -/
def maxPathBytes : Nat := 4095

def maxNameBytes : Nat := 255

def joined (steps : List String) : String := "/".intercalate steps

def hasDirectory (d : Directory) (steps : List String) : Bool :=
  d.files.keys.any fun path => (joined steps ++ "/").isPrefixOf path

/-- What stands under the last of the steps, where that is no directory. -/
def entryAt (d : Directory) (steps : List String) (name : String) : Entry :=
  if name.utf8ByteSize > maxNameBytes then .nameTooLong
  else
    let path := joined (steps ++ [name])
    match d.files[path]? with
    | some text => .file path text
    | none => .vacant path

/-- Why no path leads on from an entry. -/
def Entry.fault : Entry → FileFault
  | .file _ _ => .notDirectory
  | .sink => .notDirectory
  | .vacant _ => .missing
  | .nameTooLong => .nameTooLong

/-- An entry with the steps after it. -/
def Place.ofEntry (e : Entry) (rest : List String) : Place :=
  if rest.all (· = "") then .entry e (rest ≠ []) else .unreachable e.fault

/-- Goes on from a directory, of which there are `steps` to come back. Nothing can be reached
outside. -/
def walk (d : Directory) (steps : List String) : List String → Place
  | [] => .directory
  | step :: rest =>
    if step = "" || step = "." then walk d steps rest
    else if step = ".." then
      if steps ≠ [] then walk d steps.dropLast rest
      else if rest.all (· = "") then .directory
      else .unreachable .missing
    else if d.hasDirectory (steps ++ [step]) then walk d (steps ++ [step]) rest
    else .ofEntry (d.entryAt steps step) rest

/-- What a path from the root leads to: directories that are always there, or the device in one of
them. -/
def ofRoot : List String → Place
  | [] => .directory
  | "dev" :: "null" :: rest => .ofEntry .sink rest
  | step :: rest =>
    if step = "" || step = "." then ofRoot rest
    else if ["dev", "tmp"].contains step && rest.all (· = "") then .directory
    else .unreachable .missing

def locate (d : Directory) (path : String) : Place :=
  if path.utf8ByteSize > maxPathBytes then .unreachable .nameTooLong
  else match path.splitOn "/" with
    | [""] => .unreachable .missing
    | "" :: rest => ofRoot rest
    | steps => d.walk [] steps

def read (d : Directory) (path : String) : Except FileFault ByteArray :=
  match d.locate path with
  | .directory => .error .isDirectory
  | .entry (.file _ text) false => .ok text.toUTF8
  | .entry .sink false => .ok .empty
  | .entry e _ => .error e.fault
  | .unreachable fault => .error fault

def exists? (d : Directory) (path : String) : Bool :=
  match d.locate path with
  | .directory => true
  | .entry (.file _ _) asDirectory => !asDirectory
  | .entry .sink asDirectory => !asDirectory
  | _ => false

/-- The directory after a text has been written to a path. -/
def write (d : Directory) (path text : String) : Except FileFault Directory :=
  match d.locate path with
  | .directory => .error .isDirectory
  | .entry _ true => .error .isDirectory
  | .entry (.file path _) false => .ok ⟨d.files.insert path text⟩
  | .entry .sink false => .ok d
  | .entry (.vacant path) false => .ok ⟨d.files.insert path text⟩
  | .entry .nameTooLong false => .error .nameTooLong
  | .unreachable fault => .error fault

/-- Files in a directory that is carried along. -/
def access : Files (StateM Directory) where
  read path := return (← get).read path
  exists? path := return (← get).exists? path
  write path text := do
    match (← get).write path text with
    | .ok d => set d; return .ok ()
    | .error fault => return .error fault

end Directory

end ColumnOrigin
