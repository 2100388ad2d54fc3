import ColumnOrigin.Sql.Grammar
import ColumnOrigin.Sql.Keyword
import ColumnOrigin.Sql.Statement
import ColumnOrigin.Sql.Token

/-! Reading a list of tokens from the left.

A parser takes the tokens that are left and leaves fewer. Nested statements, queries and
expressions are levels; `Scope.levels` says how many more may be entered, and going past the last
is a failure of its own, which ends every attempt at another reading. -/

namespace ColumnOrigin.Sql

/-- Why a text is not a list of statements. -/
inductive ParseError where
  /-- The text has no tokens. -/
  | lexical
  /-- The tokens follow no rule. -/
  | grammatical
  /-- The nesting is too deep. -/
  | tooDeep
deriving Repr, DecidableEq

namespace ParseError

/-- The words of a refusal are not fixed, except for the nesting; an ellipsis stands for them. -/
def message : ParseError → String
  | .lexical => "sql parser error: ..."
  | .grammatical => "sql parser error: ..."
  | .tooDeep => "sql parser error: recursion limit exceeded"

end ParseError

/-- What a parser knows about the place it stands in. -/
structure Scope where
  grammar : Grammar
  /-- How many more levels may be entered. -/
  levels : Nat
  /-- Inside the relations of CONNECT BY, where PRIOR is an operator. -/
  inConnectBy : Bool

abbrev Parser := ReaderT Scope (StateT (List Token) (Except ParseError))

namespace Parser

def refuse {α : Type} : Parser α := throw .grammatical

def grammar : Parser Grammar := do return (← read).grammar

def inGrammar (gs : List Grammar) : Parser Bool := do return gs.contains (← grammar)

/-! ## Levels and attempts -/

/-- One level deeper. -/
def deeper {α : Type} (p : Parser α) : Parser α := do
  match (← read).levels with
  | 0 => throw .tooDeep
  | n + 1 => withReader (fun s => { s with levels := n }) p

/-- The outcome of `p`; after a failure no token has been read. -/
def outcome {α : Type} (p : Parser α) : Parser (Except ParseError α) := fun scope tokens =>
  match p scope tokens with
  | .ok (a, rest) => .ok (.ok a, rest)
  | .error e => .ok (.error e, tokens)

/-- What `p` reads, if the tokens follow its rule; otherwise no token is read. -/
def attempt {α : Type} (p : Parser α) : Parser (Option α) := do
  match ← outcome p with
  | .ok a => return some a
  | .error .tooDeep => throw .tooDeep
  | .error _ => return none

/-- What `p` reads. A failure of any kind is a plain refusal. -/
def orRefuse {α : Type} (p : Parser α) : Parser α := do
  match ← outcome p with
  | .ok a => return a
  | .error _ => refuse

/-- Goes on from `a` as long as `step` finds something more. The tokens left bound the rounds. -/
def iterate {α : Type} (step : α → Parser (Option α)) (a : α) : Parser α := do
  go ((← get).length + 1) a
where
  go : Nat → α → Parser α
    | 0, a => pure a
    | fuel + 1, a => do
      match ← step a with
      | some b => go fuel b
      | none => pure a

/-! ## Tokens -/

/-- The token `n` places ahead. -/
def peekAt (n : Nat) : Parser (Option Token) := do return (← get)[n]?

def peek : Parser (Option Token) := peekAt 0

/-- Reads a token; at the end there is none. -/
def next : Parser (Option Token) := do
  match ← get with
  | [] => return none
  | t :: rest => set rest; return some t

def skip : Parser Unit := modify (·.drop 1)

/-- The keyword that a token is. -/
def keywordOf : Option Token → String
  | some (.word w) => w.keyword
  | _ => ""

def isSymbol (s : String) : Option Token → Bool
  | some (.symbol t) => t == s
  | _ => false

def atKeyword (k : String) : Parser Bool := do return keywordOf (← peek) == k

def atKeywords (ks : List String) : Parser Bool := do return ks.contains (keywordOf (← peek))

def atSymbol (s : String) : Parser Bool := do return isSymbol s (← peek)

/-- A query starts here. -/
def atSubquery : Parser Bool := atKeywords ["SELECT", "WITH"]

/-- Reads the keyword if it is next. -/
def keyword? (k : String) : Parser Bool := do
  if ← atKeyword k then skip; return true
  else return false

/-- Reads all the keywords if they are next, or none of them. -/
def keywords? (ks : List String) : Parser Bool := do
  let heads := (← get).take ks.length
  if heads.map (keywordOf ∘ some) == ks then modify (·.drop ks.length); return true
  else return false

/-- Reads the first of the sequences of keywords that is next. -/
def anyKeywords? : List (List String) → Parser Bool
  | [] => return false
  | ks :: rest => do
    if ← keywords? ks then return true
    else anyKeywords? rest

/-- Reads one of the keywords if one is next. -/
def anyKeyword? (ks : List String) : Parser (Option String) := do
  let k := keywordOf (← peek)
  if ks.contains k then skip; return some k
  else return none

/-- Reads the keyword if it is next and one of the grammars `gs` has it. -/
def keywordIn? (gs : List Grammar) (k : String) : Parser Bool := do
  if ← inGrammar gs then keyword? k
  else return false

/-- Reads `p` after the keywords, if those are next. -/
def after? (ks : List String) (p : Parser Unit) : Parser Bool := do
  if ← keywords? ks then p; return true
  else return false

/-- Reads the symbol if it is next. -/
def symbol? (s : String) : Parser Bool := do
  if ← atSymbol s then skip; return true
  else return false

/-- Reads a comma, or the keyword that may stand for it, if one is next. -/
def commaOrKeyword? (k : String) : Parser Bool := do
  if ← symbol? "," then return true
  else keyword? k

def expectKeyword (k : String) : Parser Unit := do
  unless ← keyword? k do refuse

def expectKeywords : List String → Parser Unit
  | [] => pure ()
  | k :: ks => do expectKeyword k; expectKeywords ks

def expectAnyKeyword (ks : List String) : Parser String := do
  match ← anyKeyword? ks with
  | some k => return k
  | none => refuse

def expectSymbol (s : String) : Parser Unit := do
  unless ← symbol? s do refuse

/-! ## Lists -/

/-- One item or more, with commas between them. -/
def commaSeparated {α : Type} (p : Parser α) : Parser (List α) := do
  let first ← p
  let items ← iterate (fun (items : List α) => do
    if ← symbol? "," then return some ((← p) :: items)
    else return none) [first]
  return items.reverse

/-- Items with commas between them, or nothing before the symbol that closes the list. -/
def commaSeparatedUntil {α : Type} (close : String) (p : Parser α) : Parser (List α) := do
  if ← atSymbol close then return []
  else commaSeparated p

def parenthesised {α : Type} (p : Parser α) : Parser α := do
  expectSymbol "("
  let a ← p
  expectSymbol ")"
  return a

/-- Clauses in any order, each once at most. A clause says whether it was there. -/
def eachOnce (clauses : List (Parser Bool)) : Parser Unit := discard (iterate without clauses)
where
  /-- The clauses that may still come, if one of them is next. -/
  without : List (Parser Bool) → Parser (Option (List (Parser Bool)))
    | [] => return none
    | clause :: others => do
      if ← clause then return some others
      else return (← without others).map (clause :: ·)

/-- Repeats a clause as long as it is there. -/
def eachTime (clause : Parser Bool) : Parser Unit := do
  iterate (fun (_ : Unit) => do if ← clause then return some () else return none) ()

/-! ## Names -/

/-- A word, keyword or not, or a string in its place. -/
def name : Parser String := do
  match ← next with
  | some (.word w) => return w.text
  | some (.string s) => return s
  | some (.wideString s) => return s
  | _ => refuse

/-- A name with dots in it. -/
def dottedName : Parser (List String) := do
  let first ← name
  let parts ← iterate (fun (parts : List String) => do
    if ← symbol? "." then return some ((← name) :: parts)
    else return none) [first]
  return parts.reverse

/-- A part of a name. Where it is missing, the token in its place is lost. -/
def loosePart : Parser Bool := do
  match ← next with
  | some (.word _) => return true
  | some (.string _) => return true
  | some (.wideString _) => return true
  | _ => return false

/-- A name with dots in it, as far as it goes; the token in the place of a missing part is lost. -/
def looseName : Parser Unit := do
  let _ ← iterate (fun (going : Bool) => do
    if going then
      if ← symbol? "." then return some (← loosePart)
    return none) (← loosePart)

/-- A list of names in parentheses. -/
def nameList : Parser (List String) := parenthesised (commaSeparated name)

/-- A list of names in parentheses, if there is one. -/
def nameList? : Parser (List String) := do
  if ← atSymbol "(" then nameList
  else return []

/-- An alias: after AS any word, otherwise a word that is not reserved here, or a string. -/
def aliasName? (reserved : List String) : Parser (Option String) := do
  let afterAs ← keyword? "AS"
  match ← peek with
  | some (.word w) =>
    if afterAs || !reserved.contains w.keyword then skip; return some w.text
    else return none
  | some (.string s) => skip; return some s
  | some (.wideString s) => skip; return some s
  | _ => if afterAs then refuse else return none

/-! ## Literals -/

/-- A number without fraction that fits into `bits` bits. -/
def numeral (bits : Nat) : Parser Nat := do
  match ← next with
  | some (.number digits _) =>
    match digits.toNat? with
    | some n => if digits.toList.all Char.isDigit && n < Nat.pow 2 bits then return n else refuse
    | none => refuse
  | _ => refuse

def naturalLiteral : Parser Nat := numeral 64

/-- A string in single quotes. -/
def stringLiteral : Parser Unit := do
  match ← next with
  | some (.string _) => pure ()
  | _ => refuse

/-- A string where only a string makes sense, so that a word that is no keyword also counts. -/
def textLiteral : Parser String := do
  match ← next with
  | some (.word w) => if Keyword.isKeyword w.keyword then refuse else return w.text
  | some (.string s) => return s
  | some (.wideString s) => return s
  | some (.escapedString s) => if ← inGrammar [.standard, .postgres] then return s else refuse
  | some (.unicodeString s) => return s
  | _ => refuse

/-- The word or number that a colon or an at sign makes a placeholder. -/
def placeholderName : Parser Unit := do
  match ← next with
  | some (.word _) => pure ()
  | some (.number _ isLong) => if isLong then refuse
  | _ => refuse

def placeholder : Parser Unit := do
  match ← next with
  | some (.placeholder _) => pure ()
  | some (.symbol s) => if s == ":" || s == "@" then placeholderName else refuse
  | _ => refuse

/-- A number, or a placeholder for one. -/
def numberValue : Parser Unit := do
  match ← peek with
  | some (.number _ _) => skip
  | _ => placeholder

def signedNumber : Parser Unit := do
  unless ← symbol? "+" do
    let _ ← symbol? "-"
  numberValue

/-- A literal value, or a placeholder. A word in double quotes counts as a string. -/
def value : Parser Unit := do
  match ← peek with
  | some (.word w) =>
    unless w.quote == some '"' || ["TRUE", "FALSE", "NULL"].contains w.keyword do refuse
    skip
  | some (.number _ _) => skip
  | some (.string _) => skip
  | some (.wideString _) => skip
  | some (.escapedString _) => skip
  | some (.unicodeString _) => skip
  | some (.literal _) => skip
  | _ => placeholder

end Parser

end ColumnOrigin.Sql
