/-! What the arguments of the program ask for.

Options stand before or after the command, each at most once on each side; the right one counts.
A value stands in the word of its option or in the next word. Two dashes end the options. -/

namespace ColumnOrigin.Command

inductive OutputFormat where
  | text
  | json
deriving Repr, DecidableEq

namespace OutputFormat

def ofName? : String → Option OutputFormat
  | "text" => some .text
  | "json" => some .json
  | _ => none

end OutputFormat

/-- A command and its operands. -/
inductive Task where
  /-- Attributes the columns of one resource, or of all. -/
  | resolve (resource : Option String) (format : OutputFormat) (output : Option String)
  /-- Names the tables of some columns of a resource. -/
  | columns (resource : String) (columns : List String)
  /-- Shows the conventions of the database. -/
  | dialect
deriving Repr, DecidableEq

structure Invocation where
  configPath : Option String
  isVerbose : Bool
  task : Task
deriving Repr, DecidableEq

/-- Why arguments ask for no task. -/
inductive Halt where
  | misuse
  | help
  | version
deriving Repr, DecidableEq

inductive OptionName where
  | config
  | verbose
  | help
  | version
  | format
  | output
deriving Repr, DecidableEq

namespace OptionName

def letter : OptionName → Char
  | .config => 'c'
  | .verbose => 'v'
  | .help => 'h'
  | .version => 'V'
  | .format => 'f'
  | .output => 'o'

def word : OptionName → String
  | .config => "config"
  | .verbose => "verbose"
  | .help => "help"
  | .version => "version"
  | .format => "format"
  | .output => "output"

def takesValue : OptionName → Bool
  | .config => true
  | .format => true
  | .output => true
  | _ => false

end OptionName

inductive CommandName where
  | resolve
  | columns
  | dialect
deriving Repr, DecidableEq

namespace CommandName

def ofName? : String → Option CommandName
  | "resolve" => some .resolve
  | "columns" => some .columns
  | "dialect" => some .dialect
  | _ => none

/-- The options that may stand after the command. -/
def options : CommandName → List OptionName
  | .resolve => [.config, .verbose, .help, .format, .output]
  | _ => [.config, .verbose, .help]

end CommandName

/-- The options that may stand before the command. -/
def leadingOptions : List OptionName := [.config, .verbose, .help, .version]

/-- The options that are set on one side of the command. -/
structure Settings where
  config : Option String := none
  isVerbose : Bool := false
  format : Option OutputFormat := none
  output : Option String := none

namespace Settings

/-- Sets an option. None is set twice, and a path is not empty. -/
def set (s : Settings) (o : OptionName) (value : String) : Except Halt Settings :=
  match o with
  | .config =>
    if s.config.isSome || value = "" then .error .misuse else .ok { s with config := some value }
  | .verbose => if s.isVerbose then .error .misuse else .ok { s with isVerbose := true }
  | .help => .error .help
  | .version => .error .version
  | .format =>
    match s.format, OutputFormat.ofName? value with
    | none, some format => .ok { s with format := some format }
    | _, _ => .error .misuse
  | .output =>
    if s.output.isSome || value = "" then .error .misuse else .ok { s with output := some value }

/-- Sets the options of a word with one dash. The one whose value has to be in the next word, if
there is one, is left over. -/
def setLetters (known : List OptionName) (s : Settings) :
    List Char → Except Halt (Settings × Option OptionName)
  | [] => .ok (s, none)
  | c :: rest =>
    match known.find? (·.letter = c) with
    | none => .error .misuse
    | some o =>
      if o.takesValue then
        match rest with
        | [] => .ok (s, some o)
        | '=' :: value => (s.set o (String.ofList value)).map (·, none)
        | value => (s.set o (String.ofList value)).map (·, none)
      else do setLetters known (← s.set o "") rest

/-- Sets the option of a word with two dashes, which are cut off. -/
def setWord (known : List OptionName) (s : Settings) (text : List Char) :
    Except Halt (Settings × Option OptionName) :=
  let (name, value) := text.span (· ≠ '=')
  match known.find? (·.word = String.ofList name), value with
  | some o, [] => if o.takesValue then .ok (s, some o) else (s.set o "").map (·, none)
  | some o, _ :: value =>
    if o.takesValue then (s.set o (String.ofList value)).map (·, none) else .error .misuse
  | none, _ => .error .misuse

end Settings

/-- A word of the command line by its dashes. -/
inductive Word where
  | operand (text : String)
  | letters (letters : List Char)
  | option (text : List Char)
  /-- Two dashes alone. -/
  | endOfOptions

/-- One dash alone is an operand. -/
def Word.ofString (s : String) : Word :=
  match s.toList with
  | ['-', '-'] => .endOfOptions
  | '-' :: '-' :: text => .option text
  | '-' :: c :: cs => .letters (c :: cs)
  | _ => .operand s

/-- Reads up to the command. `pending` is the option that waits for its value. -/
def readLeading (s : Settings) (pending : Option OptionName) :
    List String → Except Halt (Settings × CommandName × List String)
  | [] => .error .misuse
  | word :: rest =>
    match pending, Word.ofString word with
    | some o, .operand value => do readLeading (← s.set o value) none rest
    | none, .operand name =>
      match CommandName.ofName? name with
      | some command => .ok (s, command, rest)
      | none => .error (if name = "help" then .help else .misuse)
    | none, .letters letters => do
      let (s, pending) ← s.setLetters leadingOptions letters
      readLeading s pending rest
    | none, .option text => do
      let (s, pending) ← s.setWord leadingOptions text
      readLeading s pending rest
    | _, _ => .error .misuse

/-- Reads what follows a command: its options and its operands. -/
def readTrailing (known : List OptionName) (s : Settings) (pending : Option OptionName) :
    List String → Except Halt (Settings × List String)
  | [] => if pending.isSome then .error .misuse else .ok (s, [])
  | word :: rest =>
    match pending, Word.ofString word with
    | some o, .operand value => do readTrailing known (← s.set o value) none rest
    | none, .operand operand =>
      (readTrailing known s none rest).map fun r => (r.1, operand :: r.2)
    | none, .letters letters => do
      let (s, pending) ← s.setLetters known letters
      readTrailing known s pending rest
    | none, .option text => do
      let (s, pending) ← s.setWord known text
      readTrailing known s pending rest
    | none, .endOfOptions => .ok (s, rest)
    | some _, _ => .error .misuse

/-- The task of a command with its options and operands. -/
def Task.of (command : CommandName) (s : Settings) (operands : List String) : Except Halt Task :=
  match command, operands with
  | .resolve, [] => .ok (.resolve none (s.format.getD .text) s.output)
  | .resolve, [resource] => .ok (.resolve (some resource) (s.format.getD .text) s.output)
  | .columns, resource :: c :: cs => .ok (.columns resource (c :: cs))
  | .dialect, [] => .ok .dialect
  | _, _ => .error .misuse

/-- What the arguments ask for. A path that the environment names counts where no option does; it
is not empty either. -/
def Invocation.ofArguments (environmentPath : Option String) (arguments : List String) :
    Except Halt Invocation := do
  let (leading, command, rest) ← readLeading {} none arguments
  let (trailing, operands) ← readTrailing command.options {} none rest
  let task ← Task.of command trailing operands
  if environmentPath = some "" then throw .misuse
  return {
    configPath := trailing.config <|> leading.config <|> environmentPath
    isVerbose := leading.isVerbose || trailing.isVerbose
    task }

end ColumnOrigin.Command
