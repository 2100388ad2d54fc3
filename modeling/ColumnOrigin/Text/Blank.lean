import ColumnOrigin.Text.Ranges

/-! Unicode `White_Space`: what separates tokens and what a blank table name consists of. -/

namespace ColumnOrigin.Text

/-- Code points with the property `White_Space`, in increasing order. -/
def blankRanges : List (Nat × Nat) := [
  (0x9, 0xD), (0x20, 0x20), (0x85, 0x85), (0xA0, 0xA0), (0x1680, 0x1680), (0x2000, 0x200A),
  (0x2028, 0x2029), (0x202F, 0x202F), (0x205F, 0x205F), (0x3000, 0x3000)]

def isBlank (c : Char) : Bool := inRanges blankRanges c

/-- A text with nothing in it but white space. -/
def isAllBlank (s : String) : Bool := s.toList.all isBlank

end ColumnOrigin.Text
