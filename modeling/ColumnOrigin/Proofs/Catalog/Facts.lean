import ColumnOrigin.Catalog.Assembly
import ColumnOrigin.Proofs.Names

/-!
# What a catalog says about a column

A column is a bare one, as the driver and its attribution give it, with the facts that a catalog
has about it. `TableCatalog.stamp` adds the facts of the column's name (`facts_stamp`) and leaves
the bare column alone (`bare_stamp`).
-/

namespace ColumnOrigin

/-- What a catalog says about one column. -/
structure CatalogFacts where
  primaryKey : Bool
  defaultValue : Option String
  sequence : Bool
  sequenceName : Option String
deriving Repr, DecidableEq

namespace CatalogFacts

def unknown : CatalogFacts := ⟨false, none, false, none⟩

/-- What the rows and keys of a table say about its column of this name. Of two rows with one folded
name the later counts; its default is looked at before its further attributes. -/
def ofTable (dialect : Dialect) (rows : List CatalogColumn) (keys : List String)
    (name : String) : CatalogFacts :=
  let row := rows.findRev? fun row => dialect.fold row.name = dialect.fold name
  let drawn := row.bind fun row =>
    (row.defaultValue.toList ++ row.extra.toList).findSome? dialect.detectSequence
  { primaryKey := keys.any fun key => dialect.fold key = dialect.fold name
    defaultValue := row.bind (·.defaultValue)
    sequence := drawn.isSome
    sequenceName := drawn.bind (·.name) }

/-- The facts go by the folded name. -/
theorem ofTable_congr {dialect : Dialect} {name other : String}
    (same : dialect.fold name = dialect.fold other) (rows : List CatalogColumn)
    (keys : List String) : ofTable dialect rows keys name = ofTable dialect rows keys other := by
  simp only [ofTable, same]

end CatalogFacts

namespace Column

def facts (c : Column) : CatalogFacts := ⟨c.primaryKey, c.defaultValue, c.sequence, c.sequenceName⟩

/-- The column without what a catalog says. Its number, name, label, type, both names of its table
and the read-only mark stay. -/
def bare (c : Column) : Column :=
  { c with primaryKey := false, defaultValue := none, sequence := false, sequenceName := none }

end Column

namespace TableCatalog
variable {dialect : Dialect}

theorem bare_stamp (catalog : TableCatalog) (c : Column) :
    (catalog.stamp dialect c).bare = c.bare := by
  simp only [stamp]
  split
  · rfl
  · split <;> rfl

theorem contains_ofRows (rows : List CatalogColumn) (keys : List String) (name : String) :
    (ofRows dialect rows keys).primaryKeys.contains (dialect.fold name) =
      keys.any fun key => dialect.fold key = dialect.fold name := by
  rw [Bool.eq_iff_iff, Std.ExtTreeSet.contains_iff_mem, ofRows, NameSet.mem_ofNames]
  simp

theorem row_ofRows (rows : List CatalogColumn) (keys : List String) (name : String) :
    (ofRows dialect rows keys).columns[dialect.fold name]? =
      rows.findRev? fun row => dialect.fold row.name = dialect.fold name := by
  have last := NameMap.getElem?_ofEntries_map (fun row => dialect.fold row.name)
    (fun row : CatalogColumn => row) rows (dialect.fold name)
  rw [Option.map_id'] at last
  exact last

/-- A bare column gets the facts of its own name. -/
theorem facts_stamp (rows : List CatalogColumn) (keys : List String) (c : Column) :
    ((ofRows dialect rows keys).stamp dialect c.bare).facts =
      .ofTable dialect rows keys c.name := by
  have name : c.bare.name = c.name := rfl
  simp only [stamp, name, contains_ofRows, row_ofRows, CatalogFacts.ofTable]
  cases rows.findRev? fun row => dialect.fold row.name = dialect.fold c.name with
  | none => rfl
  | some row =>
    simp only [Option.bind_some]
    cases (row.defaultValue.toList ++ row.extra.toList).findSome? dialect.detectSequence <;> rfl

end TableCatalog

end ColumnOrigin
