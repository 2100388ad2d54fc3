/-! Reading a text from the left, with blanks, comments and strings as TOML has them. -/

namespace ColumnOrigin.Toml

/-- Takes the text that is left and leaves less of it, or refuses it. -/
abbrev Reader := StateT (List Char) Option

namespace Reader

def refuse {α : Type} : Reader α := fun _ => none

def peek : Reader (Option Char) := do return (← get).head?

/-- Reads the character if it is next. -/
def char? (c : Char) : Reader Bool := do
  match ← get with
  | d :: rest => if c = d then set rest; return true else return false
  | [] => return false

def expect (c : Char) : Reader Unit := do
  unless ← char? c do refuse

def takeWhile (p : Char → Bool) : Reader (List Char) := do
  let (taken, rest) := (← get).span p
  set rest
  return taken

/-- Goes on with a function on texts. -/
def apply {α : Type} (f : List Char → Option (α × List Char)) : Reader α := f

end Reader

def isBlank (c : Char) : Bool := c = ' ' || c = '\t'

/-- What may stand in a string or a comment as itself: no control but the tab. -/
def isPlain (c : Char) : Bool := c = '\t' || (32 ≤ c.toNat && c.toNat ≠ 127)

/-- The text after a line end, if it starts with one. -/
def afterLineEnd? : List Char → Option (List Char)
  | '\n' :: rest => some rest
  | '\r' :: '\n' :: rest => some rest
  | _ => none

/-- The text after blanks, line ends and comments. -/
def afterGap? (inComment : Bool) : List Char → Option (List Char)
  | [] => some []
  | '\n' :: rest => afterGap? false rest
  | '\r' :: '\n' :: rest => afterGap? false rest
  | c :: rest =>
    if inComment then if isPlain c then afterGap? true rest else none
    else if isBlank c then afterGap? false rest
    else if c = '#' then afterGap? true rest
    else some (c :: rest)

namespace Reader

def blanks : Reader Unit := do
  let _ ← takeWhile isBlank

/-- Blanks, line ends and comments, which may stand between the items of an array. -/
def gap : Reader Unit := apply fun text => (afterGap? false text).map ((), ·)

/-- Blanks, a comment if there is one, and the end of the line or of the text. -/
def restOfLine : Reader Unit := do
  blanks
  if ← char? '#' then
    let _ ← takeWhile isPlain
  apply fun text => if text = [] then some ((), []) else (afterLineEnd? text).map ((), ·)

end Reader

end ColumnOrigin.Toml
