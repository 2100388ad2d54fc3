import ColumnOrigin.Sql.Grammar
import ColumnOrigin.Sql.Token
import ColumnOrigin.Text.Case
import ColumnOrigin.Text.Digits
import ColumnOrigin.Text.Numeric

/-! From a SQL text to its tokens. White space and comments separate tokens and leave no trace. A
text is refused when a string, a quoted identifier or a comment in it does not end, or when an
escape inside a literal is malformed; any other character makes a token. -/

namespace ColumnOrigin.Sql.Lexer

open Text (hexCharacter? isAlphabetic isBlank isDigit isHexDigit isNumeric isOctalDigit ofDigits)

/-- What stands at the start of a text, none if that is white space or a comment, and the text
after it. Nothing at all is a refusal. -/
abbrev Scan := Option (Option Token × List Char)

def found (t : Token) (rest : List Char) : Scan := some (some t, rest)

def skipped (rest : List Char) : Scan := some (none, rest)

/-! ## Words -/

def isWordStart : Grammar → Char → Bool
  | .standard, c => isAlphabetic c || c = '_' || c = '#' || c = '@'
  | .postgres, c => isAlphabetic c || c = '_'
  | .mySql, c =>
    isAlphabetic c || c = '_' || c = '$' || c = '@' || (0x80 ≤ c.toNat && c.toNat ≤ 0xFFFF)

def isWordPart : Grammar → Char → Bool
  | .standard, c => isWordStart .standard c || isDigit c || c = '$'
  | .postgres, c => isWordStart .postgres c || isDigit c || c = '$'
  | .mySql, c => isWordStart .mySql c || isDigit c

def unquotedWord (text : List Char) : Token :=
  .word ⟨String.ofList text, Text.upper (String.ofList text), none⟩

def quotedWord (quote : Char) (text : List Char) : Token :=
  .word ⟨String.ofList text, "", some quote⟩

/-- The word that begins with `start`, which has been read. -/
def scanWord (g : Grammar) (start rest : List Char) : Scan :=
  let (more, rest) := rest.span (isWordPart g)
  found (unquotedWord (start ++ more)) rest

/-! ## Quoted texts -/

/-- The rest of a quoted text up to its closing quote, and the text after that. A doubled quote is
the quote character. -/
def quotedBody (quote : Char) : List Char → Option (List Char × List Char)
  | [] => none
  | c :: rest =>
    if c = quote then
      match rest with
      | [] => some ([], [])
      | d :: rest' =>
        if d = quote then (quotedBody quote rest').map fun r => (quote :: r.1, r.2)
        else some ([], d :: rest')
    else (quotedBody quote rest).map fun r => (c :: r.1, r.2)

/-- The character that a backslash and `c` stand for. -/
def escapedChar (c : Char) : Char :=
  if c = '0' then '\x00'
  else if c = 'a' then '\x07'
  else if c = 'b' then '\x08'
  else if c = 'f' then '\x0c'
  else if c = 'n' then '\n'
  else if c = 'r' then '\r'
  else if c = 't' then '\t'
  else if c = 'Z' then '\x1a'
  else c

/-- The rest of a quoted text in which a backslash escapes the character after it. -/
def escapedBody (quote : Char) : List Char → Option (List Char × List Char)
  | [] => none
  | c :: rest =>
    if c = quote then
      match rest with
      | [] => some ([], [])
      | d :: rest' =>
        if d = quote then (escapedBody quote rest').map fun r => (quote :: r.1, r.2)
        else some ([], d :: rest')
    else if c = '\\' then
      match rest with
      | [] => none
      | d :: rest' => (escapedBody quote rest').map fun r => (escapedChar d :: r.1, r.2)
    else (escapedBody quote rest).map fun r => (c :: r.1, r.2)

/-- The rest of a string in which this grammar's own rule for backslashes holds. -/
def stringBody (g : Grammar) (quote : Char) : List Char → Option (List Char × List Char) :=
  match g with
  | .mySql => escapedBody quote
  | _ => quotedBody quote

/-- A literal of which only the end matters. -/
def scanLiteral (kind : LiteralKind) (body : Option (List Char × List Char)) : Scan :=
  body.bind fun r => found (.literal kind) r.2

/-- The text after the next three quotes. -/
def afterTripleQuote? (quote : Char) : List Char → Option (List Char)
  | a :: b :: c :: rest =>
    if a = quote ∧ b = quote ∧ c = quote then some rest
    else afterTripleQuote? quote (b :: c :: rest)
  | _ => none

/-- The text after a raw string whose first quote has been read. Three quotes open a text that only
three quotes close; two are an empty string. -/
def afterRaw? (quote : Char) (text : List Char) : Option (List Char) :=
  match text with
  | [] => none
  | a :: rest =>
    if a = quote then
      match rest with
      | [] => some []
      | b :: rest' => if b = quote then afterTripleQuote? quote rest' else some rest
    else (quotedBody quote text).map (·.2)

/-- The character that `count` hexadecimal digits write in an `E'…'` string, and the text after
them. A plus sign may take the place of the first digit. -/
def hexEscape? (count : Nat) : List Char → Option (Char × List Char)
  | '+' :: rest => hexCharacter? (count - 1) rest
  | text => hexCharacter? count text

/-- The character that an escape in an `E'…'` string stands for, and the text after the escape. Its
backslash has been read. A byte has to be ASCII. -/
def extendedEscape? : List Char → Option (Char × List Char)
  | [] => none
  | c :: rest =>
    if c = 'u' then hexEscape? 4 rest
    else if c = 'U' then hexEscape? 8 rest
    else if c = 'x' then
      let digits := (rest.take 2).takeWhile isHexDigit
      if digits = [] then some ('x', rest)
      else byte? (ofDigits 16 digits) (rest.drop digits.length)
    else if isOctalDigit c then
      let digits := c :: (rest.take 2).takeWhile isOctalDigit
      byte? (ofDigits 8 digits % 256) (rest.drop (digits.length - 1))
    else if ['b', 'f', 'n', 'r', 't'].contains c then some (escapedChar c, rest)
    else some (c, rest)
where
  byte? (n : Nat) (rest : List Char) : Option (Char × List Char) :=
    if n < 128 then some (Char.ofNat n, rest) else none

/-- The rest of an `E'…'` string, in which no escape may stand for the null character, and the text
after it. `fuel` bounds its characters. -/
def extendedBody? : Nat → List Char → Option (List Char × List Char)
  | 0, _ => none
  | _, [] => none
  | _, ['\''] => some ([], [])
  | fuel + 1, '\'' :: '\'' :: rest =>
    (extendedBody? fuel rest).map fun r => ('\'' :: r.1, r.2)
  | _, '\'' :: rest => some ([], rest)
  | fuel + 1, '\\' :: rest => do
    let (c, rest) ← extendedEscape? rest
    if c = '\x00' then none
    else (extendedBody? fuel rest).map fun r => (c :: r.1, r.2)
  | fuel + 1, c :: rest => (extendedBody? fuel rest).map fun r => (c :: r.1, r.2)

/-- The rest of a `U&'…'` string, and the text after it. `fuel` bounds its characters. -/
def unicodeBody? : Nat → List Char → Option (List Char × List Char)
  | 0, _ => none
  | _, [] => none
  | _, ['\''] => some ([], [])
  | fuel + 1, '\'' :: '\'' :: rest =>
    (unicodeBody? fuel rest).map fun r => ('\'' :: r.1, r.2)
  | _, '\'' :: rest => some ([], rest)
  | fuel + 1, '\\' :: '\\' :: rest =>
    (unicodeBody? fuel rest).map fun r => ('\\' :: r.1, r.2)
  | fuel + 1, '\\' :: '+' :: rest => do
    let (c, rest) ← hexCharacter? 6 rest
    (unicodeBody? fuel rest).map fun r => (c :: r.1, r.2)
  | fuel + 1, '\\' :: rest => do
    let (c, rest) ← hexCharacter? 4 rest
    (unicodeBody? fuel rest).map fun r => (c :: r.1, r.2)
  | fuel + 1, c :: rest => (unicodeBody? fuel rest).map fun r => (c :: r.1, r.2)

/-! ## Dollar quotes and placeholders -/

/-- The text after the next `$$`. -/
def afterDollars? : List Char → Option (List Char)
  | '$' :: '$' :: rest => some rest
  | _ :: rest => afterDollars? rest
  | [] => none

/-- The text after the next occurrence of `$tag$`. Where the text leaves the tag, the search goes
on after the character that differs. `fuel` bounds the dollars passed. -/
def afterTag? (tag : List Char) : Nat → List Char → Option (List Char)
  | 0, _ => none
  | fuel + 1, text =>
    match text.dropWhile (· ≠ '$') with
    | [] => none
    | _ :: rest =>
      match compareTag tag rest with
      | (true, '$' :: rest) => some rest
      | (_, rest) => afterTag? tag fuel rest
where
  /-- Whether the text goes on with the tag, and the text after the last character compared. -/
  compareTag : List Char → List Char → Bool × List Char
    | [], text => (true, text)
    | _ :: _, [] => (false, [])
    | t :: tag, c :: text => if c = t then compareTag tag text else (false, text)

/-- Either `$$…$$`, `$tag$…$tag$`, or a placeholder; the first dollar has been read. -/
def scanDollar (text : List Char) : Scan :=
  match text with
  | '$' :: rest => (afterDollars? rest).bind (found (.literal .dollarQuoted))
  | _ =>
    let (tag, rest) := text.span fun c => isAlphabetic c || isNumeric c || c = '_'
    match rest with
    | '$' :: rest => (afterTag? tag (rest.length + 1) rest).bind (found (.literal .dollarQuoted))
    | _ => found (.placeholder (String.ofList ('$' :: tag))) rest

/-! ## Numbers -/

/-- An exponent with its digits, if the text goes on with one, and the text after it. -/
def scanExponent (text : List Char) : List Char × List Char :=
  match text with
  | e :: rest =>
    if e = 'e' ∨ e = 'E' then
      let (sign, rest) := match rest with
        | s :: rest' => if s = '+' ∨ s = '-' then ([s], rest') else ([], rest)
        | [] => ([], [])
      match rest.span isDigit with
      | ([], _) => ([], text)
      | (digits, rest) => (e :: sign ++ digits, rest)
    else ([], text)
  | [] => ([], [])

/-- Whether the text goes on like an exponent, with or without digits. -/
def startsExponent : List Char → Bool
  | 'e' :: _ => true
  | 'E' :: _ => true
  | _ => false

/-- A number, or a period that no digit touches. Where words may start with digits, one that does
is a word, unless what follows the digits looks like an exponent. -/
def scanNumber (g : Grammar) (text : List Char) : Scan :=
  let (whole, rest) := text.span isDigit
  match whole, rest with
  | ['0'], 'x' :: rest => found (.literal .hex) (rest.dropWhile isHexDigit)
  | _, _ =>
    let (point, rest) := match rest with
      | '.' :: rest => (['.'], rest)
      | _ => ([], rest)
    let (fraction, rest) := rest.span isDigit
    let mantissa := whole ++ point ++ fraction
    if mantissa = ['.'] then found (.symbol ".") rest
    else
      let mayBeWord := g == .mySql && !startsExponent rest
      let (exponent, rest) := scanExponent rest
      let (tail, afterTail) := rest.span (isWordPart g)
      if mayBeWord && tail ≠ [] then found (unquotedWord (mantissa ++ tail)) afterTail
      else
        let digits := String.ofList (mantissa ++ exponent)
        match rest with
        | 'L' :: rest => found (.number digits true) rest
        | _ => found (.number digits false) rest

/-! ## Comments -/

/-- The text after a comment that ends with its line. -/
def afterLine (text : List Char) : List Char := (text.dropWhile (· ≠ '\n')).drop 1

/-- The text after a comment of `depth` levels. `last` is the character before the text. -/
def afterComment? (depth : Nat) (last : Char) : List Char → Option (List Char)
  | [] => none
  | c :: rest =>
    if last = '/' ∧ c = '*' then afterComment? (depth + 1) c rest
    else if last = '*' ∧ c = '/' then
      if depth ≤ 1 then some rest else afterComment? (depth - 1) c rest
    else afterComment? depth c rest

/-! ## Operators -/

/-- A character that goes on an operator of PostgreSQL. -/
def isOperatorPart (c : Char) : Bool :=
  ['+', '-', '*', '/', '<', '>', '=', '~', '!', '@', '#', '%', '^', '&', '|', '\x60',
    '?'].contains c

/-- The operator `op`, or the longer run of operator characters that it begins. -/
def scanOperator (g : Grammar) (op : String) (rest : List Char) : Scan :=
  match g with
  | .postgres =>
    match rest.span isOperatorPart with
    | ([], _) => found (.symbol op) rest
    | (more, rest) => found (.operatorRun (op ++ String.ofList more)) rest
  | _ => found (.symbol op) rest

/-- One of `#` and `@` where no longer operator begins with it. Where it may start a word, it does
so with the character after it, whatever that is, unless a blank follows. -/
def scanSigil (g : Grammar) (start : List Char) (op : String) (rest : List Char)
    (otherwise : Scan) : Scan :=
  match rest with
  | ' ' :: _ => found (.symbol op) rest
  | c :: rest' =>
    if isWordStart g (start.headD ' ') then scanWord g (start ++ [c]) rest' else otherwise
  | [] => otherwise

/-- An operator or punctuation mark of one character. -/
def singleSymbols : List (Char × String) := [
  ('(', "("), (')', ")"), (',', ","), ('+', "+"), ('*', "*"), (';', ";"), ('\\', "\\"),
  ('[', "["), (']', "]"), ('{', "\x7b"), ('}', "\x7d")]

/-- What begins with `c`, if that is an operator or a comment. -/
def scanSymbol (g : Grammar) (c : Char) (rest : List Char) : Option Scan :=
  match c, rest with
  | '-', '-' :: rest => some (skipped (afterLine rest))
  | '-', '>' :: '>' :: rest => some (scanOperator g "->>" rest)
  | '-', '>' :: rest => some (scanOperator g "->" rest)
  | '-', rest => some (scanOperator g "-" rest)
  | '/', '*' :: rest => some ((afterComment? 1 ' ' rest).bind skipped)
  | '/', '/' :: rest' => some (if g == .standard then found (.symbol "//") rest'
      else found (.symbol "/") rest)
  | '/', rest => some (found (.symbol "/") rest)
  | '%', rest => some (if rest.head?.any isBlank then found (.symbol "%") rest
      else scanOperator g "%" rest)
  | '|', '/' :: rest => some (scanOperator g "|/" rest)
  | '|', '|' :: '/' :: rest => some (scanOperator g "||/" rest)
  | '|', '|' :: rest => some (scanOperator g "||" rest)
  | '|', rest => some (scanOperator g "|" rest)
  | '=', '>' :: rest => some (found (.symbol "=>") rest)
  | '=', '=' :: rest => some (found (.symbol "==") rest)
  | '=', rest => some (found (.symbol "=") rest)
  | '!', '=' :: rest => some (found (.symbol "!=") rest)
  | '!', '!' :: rest => some (found (.symbol "!!") rest)
  | '!', '~' :: '*' :: rest => some (found (.symbol "!~*") rest)
  | '!', '~' :: '~' :: '*' :: rest => some (found (.symbol "!~~*") rest)
  | '!', '~' :: '~' :: rest => some (found (.symbol "!~~") rest)
  | '!', '~' :: rest => some (found (.symbol "!~") rest)
  | '!', rest => some (found (.symbol "!") rest)
  | '<', '=' :: '>' :: rest => some (scanOperator g "<=>" rest)
  | '<', '=' :: rest => some (scanOperator g "<=" rest)
  | '<', '>' :: rest => some (scanOperator g "!=" rest)
  | '<', '<' :: rest => some (scanOperator g "<<" rest)
  | '<', '@' :: rest => some (scanOperator g "<@" rest)
  | '<', rest => some (scanOperator g "<" rest)
  | '>', '=' :: rest => some (scanOperator g ">=" rest)
  | '>', '>' :: rest => some (scanOperator g ">>" rest)
  | '>', rest => some (scanOperator g ">" rest)
  | ':', ':' :: rest => some (found (.symbol "::") rest)
  | ':', '=' :: rest => some (found (.symbol ":=") rest)
  | ':', rest => some (found (.symbol ":") rest)
  | '&', '&' :: rest => some (scanOperator g "&&" rest)
  | '&', rest => some (scanOperator g "&" rest)
  | '^', '@' :: rest => some (found (.symbol "^@") rest)
  | '^', rest => some (found (.symbol "^") rest)
  | '~', '*' :: rest => some (scanOperator g "~*" rest)
  | '~', '~' :: '*' :: rest => some (scanOperator g "~~*" rest)
  | '~', '~' :: rest => some (scanOperator g "~~" rest)
  | '~', rest => some (scanOperator g "~" rest)
  | '#', rest =>
    if g == .mySql then some (skipped (afterLine rest))
    else match rest with
      | '-' :: rest => some (scanOperator g "#-" rest)
      | '>' :: '>' :: rest => some (scanOperator g "#>>" rest)
      | '>' :: rest => some (scanOperator g "#>" rest)
      | rest => some (scanSigil g ['#'] "#" rest (scanOperator g "#" rest))
  | '@', '>' :: rest => some (found (.symbol "@>") rest)
  | '@', '?' :: rest => some (found (.symbol "@?") rest)
  | '@', '@' :: rest => some (scanSigil g ['@', '@'] "@@" rest (found (.symbol "@@") rest))
  | '@', rest => some (scanSigil g ['@'] "@" rest (found (.symbol "@") rest))
  | '?', rest =>
    if g == .postgres then
      match rest with
      | '|' :: rest => some (found (.symbol "?|") rest)
      | '&' :: rest => some (found (.symbol "?&") rest)
      | rest => some (found (.symbol "?") (rest.drop 1))
    else
      let (digits, rest) := rest.span isNumeric
      some (found (.placeholder (String.ofList ('?' :: digits))) rest)
  | c, rest => (singleSymbols.lookup c).map fun op => found (.symbol op) rest

/-! ## The whole text -/

/-- A literal that begins with a letter, if the text goes on that way after the letter `c`. -/
def scanLetterLiteral (g : Grammar) (c : Char) (rest : List Char) : Option Scan :=
  match rest with
  | '\'' :: body =>
    if c = 'b' ∨ c = 'B' then some (scanLiteral .bytes (quotedBody '\'' body))
    else if (c = 'r' ∨ c = 'R') ∧ g = .standard then
      some ((afterRaw? '\'' body).bind (found (.literal .raw)))
    else if c = 'n' ∨ c = 'N' then some (scanLiteral .national (escapedBody '\'' body))
    else if c = 'e' ∨ c = 'E' then
      some ((extendedBody? (body.length + 1) body).bind fun r =>
        found (.escapedString (String.ofList r.1)) r.2)
    else if c = 'x' ∨ c = 'X' then some (scanLiteral .hex (escapedBody '\'' body))
    else none
  | '"' :: body =>
    if c = 'b' ∨ c = 'B' then some (scanLiteral .bytes (quotedBody '"' body))
    else if (c = 'r' ∨ c = 'R') ∧ g = .standard then
      some ((afterRaw? '"' body).bind (found (.literal .raw)))
    else none
  | '&' :: '\'' :: body =>
    if (c = 'u' ∨ c = 'U') ∧ g ≠ .mySql then
      some ((unicodeBody? (body.length + 1) body).bind fun r =>
        found (.unicodeString (String.ofList r.1)) r.2)
    else none
  | _ => none

/-- The quotes of identifiers. -/
def quotesWords : Grammar → Char → Bool
  | .standard, c => c = '"' || c = '\x60'
  | .postgres, c => c = '"'
  | .mySql, c => c = '\x60'

/-- What the text `c :: rest` begins with. -/
def scan (g : Grammar) (c : Char) (rest : List Char) : Scan :=
  if c = ' ' ∨ c = '\t' ∨ c = '\n' ∨ c = '\r' then skipped rest
  else match scanLetterLiteral g c rest with
    | some r => r
    | none =>
      if c = '\'' then
        (stringBody g '\'' rest).bind fun r => found (.string (String.ofList r.1)) r.2
      else if quotesWords g c then
        (quotedBody c rest).bind fun r => found (quotedWord c r.1) r.2
      else if c = '"' then
        (stringBody g '"' rest).bind fun r => found (.wideString (String.ofList r.1)) r.2
      else if isDigit c || c = '.' then scanNumber g (c :: rest)
      else match scanSymbol g c rest with
        | some r => r
        | none =>
          if isWordStart g c then scanWord g [c] rest
          else if c = '$' then scanDollar rest
          else if isBlank c then skipped rest
          else found (.stray c) rest

/-- The tokens of a text of at most `fuel` characters. -/
def tokensFrom (g : Grammar) : Nat → List Char → Option (List Token)
  | _, [] => some []
  | 0, _ => none
  | fuel + 1, c :: rest =>
    match scan g c rest with
    | none => none
    | some (none, rest) => tokensFrom g fuel rest
    | some (some t, rest) => (tokensFrom g fuel rest).map (t :: ·)

/-- The tokens of a text; none if it is refused. -/
def tokens? (g : Grammar) (sql : String) : Option (List Token) :=
  tokensFrom g sql.length sql.toList

end ColumnOrigin.Sql.Lexer
