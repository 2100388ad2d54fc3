import ColumnOrigin.Proofs.Query.Correlations

/-!
# Which table an alias stands for

Where several base tables share a correlation name, the order of visit decides: items from first to
last, each item from its right end, and every declaration replaces the one before. In terms of the
written order that is the leftmost table of the last item with one (`Prevails`), however the item's
joins are nested.

Unsupported constructs have no part in it: `supported?` is an item without them, and the aliases are
the same (`aliases_supported`).
-/

namespace ColumnOrigin

namespace FromNode

/-- The base tables of an item, in written order. -/
def tables (node : FromNode) : List BaseTable := node.leaves.filterMap baseTable?

/-- What is left of an item without its unsupported constructs. A join of which one side is left is
that side. -/
def supported? : FromNode → Option FromNode
  | .base table correlation => some (.base table correlation)
  | .outerJoin left right => Option.merge .outerJoin left.supported? right.supported?
  | .unsupported _ _ => none

theorem baseTables_cons (node : FromNode) (nodes : List FromNode) :
    baseTables (node :: nodes) = node.tables.reverse ++ baseTables nodes := by
  rw [baseTables, visits_cons, List.filterMap_append, List.filterMap_reverse, ← tables,
    ← baseTables]

theorem reverse_baseTables (nodes : List FromNode) :
    (baseTables nodes).reverse = nodes.reverse.flatMap tables := by
  induction nodes with
  | nil => rfl
  | cons node rest ih => simp [baseTables_cons, ih]

theorem mem_baseTables {nodes : List FromNode} {t : BaseTable} :
    t ∈ baseTables nodes ↔ ∃ node ∈ nodes, t ∈ node.tables := by
  rw [← List.mem_reverse, reverse_baseTables]
  simp

/-- An item keeps its tables without its unsupported constructs. -/
theorem tables_supported (node : FromNode) :
    (node.supported?.map tables).getD [] = node.tables := by
  induction node with
  | base table correlation => rfl
  | outerJoin left right ihl ihr =>
    have joined : (FromNode.outerJoin left right).tables = left.tables ++ right.tables := by
      simp [tables, leaves]
    rw [joined, ← ihl, ← ihr, supported?]
    cases left.supported? <;> cases right.supported? <;> simp [tables, leaves]
  | unsupported kind declared => rfl

theorem baseTables_supported (nodes : List FromNode) :
    baseTables (nodes.filterMap supported?) = baseTables nodes := by
  induction nodes with
  | nil => rfl
  | cons node rest ih =>
    rw [baseTables_cons, ← ih, ← tables_supported]
    cases kept : node.supported? with
    | none => simp [kept]
    | some item => simp [kept, baseTables_cons]

end FromNode

namespace Correlations
open FromNode
variable (folding : CaseFolding)

/-- The leftmost of the tables called `k` in the last item with such a table. -/
def Prevails (nodes : List FromNode) (k : String) (t : BaseTable) : Prop :=
  ∃ earlier item later left right,
    nodes = earlier ++ item :: later ∧ item.tables = left ++ t :: right ∧
      folding.fold t.correlation = k ∧
      (∀ u ∈ left, folding.fold u.correlation ≠ k) ∧
      ∀ node ∈ later, ∀ u ∈ node.tables, folding.fold u.correlation ≠ k

theorem find?_reverse_baseTables (nodes : List FromNode) (k : String) (t : BaseTable) :
    (baseTables nodes).reverse.find? (fun u => folding.fold u.correlation = k) = some t ↔
      Prevails folding nodes k t := by
  rw [reverse_baseTables, List.find?_flatMap, List.findSome?_eq_some_iff]
  constructor
  · rintro ⟨later, item, earlier, split, found, none⟩
    obtain ⟨called, left, right, within, others⟩ := List.find?_eq_some_iff_append.mp found
    refine ⟨earlier.reverse, item, later.reverse, left, right, ?_, within, by simpa using called,
      by simpa using others, ?_⟩
    · simpa using congrArg List.reverse split
    · intro node hn
      simpa using none node (List.mem_reverse.mp hn)
  · rintro ⟨earlier, item, later, left, right, rfl, within, called, others, none⟩
    refine ⟨later.reverse, item, earlier.reverse, by simp, ?_, ?_⟩
    · exact List.find?_eq_some_iff_append.mpr
        ⟨by simpa using called, left, right, within, by simpa using others⟩
    · intro node hn
      simpa using none node (List.mem_reverse.mp hn)

theorem alias_eq_some_iff (nodes : List FromNode) (k v : String) :
    (ofNodes folding nodes).aliases[k]? = some v ↔
      ∃ t, Prevails folding nodes k t ∧ folding.fold t.table = v := by
  simp only [alias_ofNodes, List.findRev?_eq_find?_reverse, Option.map_eq_some_iff,
    find?_reverse_baseTables]

theorem alias_isSome_iff (nodes : List FromNode) (k : String) :
    (ofNodes folding nodes).aliases[k]?.isSome ↔
      ∃ node ∈ nodes, ∃ t ∈ node.tables, folding.fold t.correlation = k := by
  rw [alias_ofNodes, Option.isSome_map, List.findRev?_eq_find?_reverse, List.find?_isSome]
  simp only [List.mem_reverse, mem_baseTables, decide_eq_true_eq]
  constructor
  · rintro ⟨t, ⟨node, hn, ht⟩, called⟩
    exact ⟨node, hn, t, ht, called⟩
  · rintro ⟨node, hn, t, ht, called⟩
    exact ⟨t, ⟨node, hn, ht⟩, called⟩

theorem aliases_supported (nodes : List FromNode) :
    (ofNodes folding (nodes.filterMap supported?)).aliases = (ofNodes folding nodes).aliases := by
  rw [aliases_ofNodes, aliases_ofNodes, baseTables_supported]

/-- **Which table an alias stands for.** A name is an alias exactly if some base table is called by
it, and it then stands for the leftmost such table of the last item that has one. Unsupported
constructs neither add, change nor remove an alias. -/
theorem alias_characterisation (nodes : List FromNode) (k : String) :
    ((ofNodes folding nodes).aliases[k]?.isSome ↔
        ∃ node ∈ nodes, ∃ t ∈ node.tables, folding.fold t.correlation = k) ∧
      (∀ v, (ofNodes folding nodes).aliases[k]? = some v ↔
        ∃ t, Prevails folding nodes k t ∧ folding.fold t.table = v) ∧
      (ofNodes folding (nodes.filterMap supported?)).aliases =
        (ofNodes folding nodes).aliases :=
  ⟨alias_isSome_iff folding nodes k, alias_eq_some_iff folding nodes k,
    aliases_supported folding nodes⟩

example :
    let join := FromNode.outerJoin (.base "t1" (some "x")) (.base "t2" (some "X"))
    (ofNodes .upper [.base "t3" (some "x"), join]).aliases.toList = [("X", "T1")] := by
  decide +kernel

end Correlations

end ColumnOrigin
