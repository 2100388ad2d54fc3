import ColumnOrigin.Dialect.Folding
import ColumnOrigin.Diagnostic
import ColumnOrigin.Names
import ColumnOrigin.Query.Shape

/-! Where the projected columns say that they come from. -/

namespace ColumnOrigin

/-- The qualifiers of the projected columns. All names are folded; a column without a qualifier has
no entry. -/
structure Origins where
  origins : NameMap String
  /-- The names projected so far, with or without a qualifier. -/
  seen : NameSet
  diagnostics : List Diagnostic

namespace Origins

def none : Origins := ⟨∅, ∅, []⟩

def ambiguousProjection (name : String) : Diagnostic where
  code := .sqlAmbiguousProjection
  severity := .warn
  message := "Column '" ++ name ++ "' is projected more than once; the last occurrence is used"
  subject := some name

/-- The origins with one more projected column, which replaces an earlier one of its name: one
without a qualifier takes away the origin that was there. -/
def add (folding : CaseFolding) (o : Origins) (column : ProjectedColumn) : Origins :=
  let name := folding.fold column.name
  { origins := match column.qualifier with
      | some qualifier => o.origins.insert name (folding.fold qualifier)
      | Option.none => o.origins.erase name
    seen := o.seen.insert name
    diagnostics :=
      if name ∈ o.seen then o.diagnostics ++ [ambiguousProjection name] else o.diagnostics }

def ofColumns (folding : CaseFolding) (columns : List ProjectedColumn) : Origins :=
  columns.foldl (add folding) none

/-- The entries whose origin is not one of `names`. -/
def without (origins : NameMap String) (names : NameSet) : NameMap String :=
  origins.filter fun _ origin => !names.contains origin

end Origins

end ColumnOrigin
