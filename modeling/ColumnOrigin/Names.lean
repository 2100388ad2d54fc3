import Std.Data.ExtTreeMap
import Std.Data.ExtTreeSet

/-! Maps and sets of names. Names are ordered by their code points, and two maps with the same
entries are equal however they were built. -/

namespace ColumnOrigin

abbrev NameMap (α : Type) := Std.ExtTreeMap String α

abbrev NameSet := Std.ExtTreeSet String

namespace NameMap

/-- Of two entries with one name the later counts. -/
def ofEntries {α : Type} (entries : List (String × α)) : NameMap α :=
  entries.foldl (fun m e => m.insert e.1 e.2) ∅

end NameMap

namespace NameSet

def ofNames (names : List String) : NameSet := names.foldl (fun s n => s.insert n) ∅

end NameSet

end ColumnOrigin
