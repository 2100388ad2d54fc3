import ColumnOrigin.Names
import ColumnOrigin.Text.Alphabetic
import ColumnOrigin.Text.Blank
import ColumnOrigin.Text.Digits
import ColumnOrigin.Text.Numeric

/-! Environment variables, and the file that adds to them.

Each line of the file sets one variable. Quotes may run over several lines, and a value may refer
to variables. The first line that cannot be read ends the file. -/

namespace ColumnOrigin

abbrev Environment := NameMap String

namespace Environment

open Text (isAlphabetic isBlank isDigit isNumeric)

/-- The value of a variable; one that is not set counts as empty. -/
def value (env : Environment) (name : List Char) : List Char :=
  (env.getD (String.ofList name) "").toList

/-! ## Lines -/

/-- What the end of a line would mean. -/
inductive LineState where
  /-- It ends the assignment. -/
  | complete
  /-- A blank has been read, after which `#` starts a comment. -/
  | blank
  | escape
  | weak
  | weakEscape
  | strong
  | strongEscape
deriving DecidableEq

/-- The state after a quote or a backslash outside quotes, or after any other character. -/
def LineState.outside (c : Char) : LineState :=
  if c = '\\' then .escape
  else if c = '"' then .weak
  else if c = '\'' then .strong
  else .complete

/-- The state after one more character; none where a comment starts. -/
def LineState.next : LineState → Char → Option LineState
  | .complete, c =>
    if isBlank c && c ≠ '\n' && c ≠ '\r' then some .blank else some (.outside c)
  | .blank, c => if c = '#' then none else some (.outside c)
  | .escape, _ => some .complete
  | .weak, c => some (if c = '\\' then .weakEscape else if c = '"' then .complete else .weak)
  | .weakEscape, _ => some .weak
  | .strong, c =>
    some (if c = '\\' then .strongEscape else if c = '\'' then .complete else .strong)
  | .strongEscape, _ => some .strong

def afterLine (text : List Char) : List Char := (text.dropWhile (· ≠ '\n')).drop 1

/-- The first assignment without its comment, and the lines after it. A text may not end inside
quotes or after a blank. -/
def takeAssignment? (state : LineState) : List Char → Option (List Char × List Char)
  | [] => if state = .complete then some ([], []) else none
  | c :: rest =>
    match state.next c with
    | none => some ([], afterLine rest)
    | some state =>
      if c = '\n' && state = .complete then some ([], rest)
      else (takeAssignment? state rest).map fun r => (c :: r.1, r.2)

/-! ## Values -/

inductive Quoting where
  | bare
  /-- Double quotes, in which backslashes and variables count. -/
  | weak
  /-- Single quotes, in which nothing else counts. -/
  | strong
deriving DecidableEq

/-- What the next character of a value belongs to. -/
inductive Phase where
  | plain
  | escaped
  /-- The name of a variable, of which this much has been read. -/
  | variable (braced : Bool) (name : List Char)
  /-- A blank outside quotes has been read: the value has ended. -/
  | ended

/-- The character that is escaped. -/
def escaped? (c : Char) : Option Char :=
  if ['\\', '\'', '"', '$', ' '].contains c then some c
  else if c = 'n' then some '\n'
  else none

/-- A value. The name of a variable consists of letters and digits, or of anything between braces;
the character that ends a name without braces always stands for itself, unless it is the sign of
another variable. -/
def value? (env : Environment) : Quoting → Phase → List Char → Option (List Char)
  | q, .variable braced name, [] => if q = .bare && !braced then some (env.value name) else none
  | q, _, [] => if q = .bare then some [] else none
  | q, .ended, c :: rest =>
    if c = ' ' || c = '\t' then value? env q .ended rest
    else if c = '#' then some []
    else none
  | q, .escaped, c :: rest => do
    return (← escaped? c) :: (← value? env q .plain rest)
  | q, .variable braced name, c :: rest =>
    if isAlphabetic c || isNumeric c then value? env q (.variable braced (name ++ [c])) rest
    else if braced then
      if c = '\x7d' then (value? env q .plain rest).map (env.value name ++ ·)
      else value? env q (.variable true (name ++ [c])) rest
    else if c = '\x7b' && name = [] then value? env q (.variable true []) rest
    else if c = '$' then (value? env q (.variable false []) rest).map (env.value name ++ ·)
    else (value? env q .plain rest).map (env.value name ++ c :: ·)
  | .strong, .plain, c :: rest =>
    if c = '\'' then value? env .bare .plain rest
    else (value? env .strong .plain rest).map (c :: ·)
  | q, .plain, c :: rest =>
    if c = '$' then value? env q (.variable false []) rest
    else if c = '\\' then value? env q .escaped rest
    else if c = '"' then value? env (if q = .weak then .bare else .weak) .plain rest
    else if c = '\'' && q = .bare then value? env .strong .plain rest
    else if (c = ' ' || c = '\t') && q = .bare then value? env q .ended rest
    else (value? env q .plain rest).map (c :: ·)

/-! ## Assignments -/

def isNameStart (c : Char) : Bool := ('A' ≤ c && c ≤ 'Z') || ('a' ≤ c && c ≤ 'z') || c = '_'

def isNamePart (c : Char) : Bool := isNameStart c || isDigit c || c = '.'

/-- A name, and the text after it and the blanks that follow. -/
def name? : List Char → Option (List Char × List Char)
  | [] => none
  | c :: rest =>
    if isNameStart c then
      some (c :: rest.takeWhile isNamePart, (rest.dropWhile isNamePart).dropWhile isBlank)
    else none

/-- The name that is assigned to, and the text of its value. `export` may stand before it. -/
def target? (text : List Char) : Option (List Char × List Char) := do
  match ← name? text with
  | (name, '=' :: text) => return (name, text.dropWhile isBlank)
  | (name, text) =>
    if name = "export".toList then
      match ← name? text with
      | (name, '=' :: text) => return (name, text.dropWhile isBlank)
      | _ => none
    else none

/-- Sets a variable, unless it is set already. -/
def assign (env : Environment) (name value : List Char) : Environment :=
  env.insertIfNew (String.ofList name) (String.ofList value)

/-- What one line makes of the variables. -/
def readLine? (env : Environment) (line : List Char) : Option Environment :=
  match ((line.dropWhile isBlank).reverse.dropWhile isBlank).reverse with
  | [] => some env
  | '#' :: _ => some env
  | text => do
    match ← target? text with
    | (name, []) => return env.assign name []
    | (name, '#' :: _) => return env.assign name []
    | (name, text) => return env.assign name (← value? env .bare .plain text)

/-- What the lines make of the variables. `fuel` bounds the lines. -/
def readLines : Nat → Environment → List Char → Environment
  | 0, env, _ => env
  | fuel + 1, env, text =>
    if text = [] then env
    else if ((text.takeWhile (· ≠ '\n')).dropWhile isBlank).head? = some '#' then
      readLines fuel env (afterLine text)
    else
      match takeAssignment? .complete text with
      | none => env
      | some (line, rest) =>
        match readLine? env line with
        | none => env
        | some env => readLines fuel env rest

/-- The variables together with those that a file sets. A mark of the byte order at the start of
the file does not count. -/
def load (env : Environment) (file : String) : Environment :=
  let text := match file.toList with
    | '\ufeff' :: rest => rest
    | text => text
  readLines text.length env text

end Environment

end ColumnOrigin
