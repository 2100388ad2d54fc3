/-! Lines of output in which some pieces are set off by colour or weight. -/

namespace ColumnOrigin.Command

inductive Colour where
  | red
  | green
  | yellow
  | blue
  | cyan
  | brightBlue
deriving Repr, DecidableEq

/-- The code of a terminal for a colour of the foreground. -/
def Colour.code : Colour → String
  | .red => "31"
  | .green => "32"
  | .yellow => "33"
  | .blue => "34"
  | .cyan => "36"
  | .brightBlue => "94"

structure Style where
  isBold : Bool := false
  isDimmed : Bool := false
  colour : Option Colour := none
deriving Repr, DecidableEq

namespace Style

/-- The codes of a style: its weight comes before its colour. -/
def codes (s : Style) : List String :=
  (if s.isBold then ["1"] else []) ++ (if s.isDimmed then ["2"] else []) ++
    (s.colour.map Colour.code).toList

/-- The sequence that starts a style. -/
def start (s : Style) : String := "\x1b[" ++ ";".intercalate s.codes ++ "m"

/-- The sequence that ends all styles. -/
def reset : String := "\x1b[0m"

end Style

/-- A part of a line in one style. -/
structure Piece where
  text : String
  style : Style := {}
deriving Repr, DecidableEq

namespace Piece

def plain (text : String) : Piece := { text }

def bold (text : String) : Piece := { text, style := { isBold := true } }

def dimmed (text : String) : Piece := { text, style := { isDimmed := true } }

def coloured (colour : Colour) (text : String) : Piece :=
  { text, style := { colour := some colour } }

def boldColoured (colour : Colour) (text : String) : Piece :=
  { text, style := { isBold := true, colour := some colour } }

/-- The text of a piece. Where the text ends all styles itself, its own starts again. -/
def render (isColoured : Bool) (p : Piece) : String :=
  if isColoured && p.style ≠ {} then
    p.style.start ++ (Style.reset ++ p.style.start).intercalate (p.text.splitOn Style.reset) ++
      Style.reset
  else p.text

end Piece

abbrev Line := List Piece

namespace Line

def render (isColoured : Bool) (l : Line) : String :=
  String.join (l.map (Piece.render isColoured)) ++ "\n"

end Line

/-- The text of some lines. -/
def renderLines (isColoured : Bool) (ls : List Line) : String :=
  String.join (ls.map (Line.render isColoured))

end ColumnOrigin.Command
