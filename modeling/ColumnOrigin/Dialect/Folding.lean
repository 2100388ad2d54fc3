import ColumnOrigin.Text.Case

/-! How a database folds the case of identifiers. Two names are one name to the database when
their folded forms are equal. -/

namespace ColumnOrigin

inductive CaseFolding where
  | upper
  | lower
  | preserve
deriving Repr, DecidableEq

namespace CaseFolding

def fold : CaseFolding → String → String
  | .upper, name => Text.upper name
  | .lower, name => Text.lower name
  | .preserve, name => name

end CaseFolding

end ColumnOrigin
