import ColumnOrigin.Proofs.Names
import ColumnOrigin.Query.Correlations
import Mathlib.Data.List.Induction

/-!
# The correlations of a FROM clause, leaf by leaf

Outer joins only decide the order in which leaves are visited, so what is kept at each leaf holds of
the whole (`ofNodes_along`). It gives the three parts of the correlations:

* `aliases_ofNodes`: the aliases are the entries of the base tables, in order of visit;
* `mem_unresolved_ofNodes`: a name is unresolved when an unsupported leaf declares it;
* `diagnostics_ofNodes`: each unsupported leaf leaves one diagnostic, in order of visit.
-/

namespace ColumnOrigin

/-- A base table, with the correlation name that the projection knows it by. -/
structure BaseTable where
  table : String
  correlation : String
deriving DecidableEq

/-- What a base table adds to the aliases. -/
def BaseTable.entry (folding : CaseFolding) (t : BaseTable) : String × String :=
  (folding.fold t.correlation, folding.fold t.table)

namespace FromNode

/-- Base tables and unsupported constructs, in written order. -/
def leaves : FromNode → List FromNode
  | .outerJoin left right => left.leaves ++ right.leaves
  | leaf => [leaf]

def baseTable? : FromNode → Option BaseTable
  | .base table correlation => some ⟨table, correlation.getD table⟩
  | _ => none

/-- What an unsupported leaf is called. -/
def kind? : FromNode → Option String
  | .unsupported kind _ => some kind
  | _ => none

/-- The names that an unsupported leaf is known to declare. -/
def withheld : FromNode → List String
  | .unsupported _ declared => declared
  | _ => []

/-- The leaves in the order in which they are visited: from the right within an item. -/
def visits (nodes : List FromNode) : List FromNode := nodes.flatMap (·.leaves.reverse)

@[simp] theorem visits_nil : visits [] = [] := rfl

@[simp] theorem visits_cons (node : FromNode) (nodes : List FromNode) :
    visits (node :: nodes) = node.leaves.reverse ++ visits nodes := by
  simp [visits]

/-- The base tables of a FROM clause, in order of visit. -/
def baseTables (nodes : List FromNode) : List BaseTable := (visits nodes).filterMap baseTable?

theorem mem_visits {nodes : List FromNode} {leaf : FromNode} :
    leaf ∈ visits nodes ↔ ∃ node ∈ nodes, leaf ∈ node.leaves := by
  simp [visits]

end FromNode

namespace Correlations
open FromNode
variable (folding : CaseFolding)

theorem ofNodes_concat (nodes : List FromNode) (node : FromNode) :
    ofNodes folding (nodes ++ [node]) = add folding node (ofNodes folding nodes) := by
  rw [ofNodes, List.foldl_append, List.foldl_cons, List.foldl_nil, ofNodes]

section
variable {folding} {motive : List FromNode → Correlations → Prop}
variable (base : ∀ visited c table correlation, motive visited c →
  motive (visited ++ [.base table correlation]) (add folding (.base table correlation) c))
variable (unsupported : ∀ visited c kind declared, motive visited c →
  motive (visited ++ [.unsupported kind declared]) (add folding (.unsupported kind declared) c))
include base unsupported

theorem add_along (node : FromNode) {visited : List FromNode} {c : Correlations}
    (h : motive visited c) : motive (visited ++ node.leaves.reverse) (add folding node c) := by
  induction node generalizing visited c with
  | base table correlation => exact base visited c table correlation h
  | outerJoin left right ihl ihr =>
    rw [add, leaves, List.reverse_append, ← List.append_assoc]
    exact ihl (ihr h)
  | unsupported kind declared => exact unsupported visited c kind declared h

/-- What is kept at each leaf, in order of visit, holds of the whole FROM clause. -/
theorem ofNodes_along (start : motive [] none) (nodes : List FromNode) :
    motive (visits nodes) (ofNodes folding nodes) := by
  induction nodes using List.reverseRecOn with
  | nil => exact start
  | append_singleton nodes node ih =>
    rw [ofNodes_concat, visits, List.flatMap_append, ← visits, List.flatMap_singleton]
    exact add_along base unsupported node ih

end

/-- Joins only decide the order of visit. -/
theorem ofNodes_visits (nodes : List FromNode) :
    ofNodes folding nodes = ofNodes folding (visits nodes) := by
  symm
  apply ofNodes_along (motive := fun visited c => ofNodes folding visited = c)
  case start => rfl
  case base =>
    intro visited c table correlation ih
    rw [ofNodes_concat, ih]
  case unsupported =>
    intro visited c kind declared ih
    rw [ofNodes_concat, ih]

theorem aliases_ofNodes (nodes : List FromNode) :
    (ofNodes folding nodes).aliases =
      NameMap.ofEntries ((baseTables nodes).map (·.entry folding)) := by
  apply ofNodes_along (motive := fun visited c =>
    c.aliases = NameMap.ofEntries ((visited.filterMap baseTable?).map (·.entry folding)))
  case start => rfl
  case base =>
    intro visited c table correlation ih
    rw [List.filterMap_append, List.map_append, NameMap.ofEntries, List.foldl_append,
      ← NameMap.ofEntries, ← ih]
    rfl
  case unsupported =>
    intro visited c kind declared ih
    simp [add, ih, List.filterMap_cons, baseTable?]

theorem mem_unresolved_ofNodes (nodes : List FromNode) (k : String) :
    k ∈ (ofNodes folding nodes).unresolved ↔
      ∃ leaf ∈ visits nodes, ∃ name ∈ leaf.withheld, folding.fold name = k := by
  apply ofNodes_along (motive := fun visited c => k ∈ c.unresolved ↔
    ∃ leaf ∈ visited, ∃ name ∈ leaf.withheld, folding.fold name = k)
  case start => simp [none]
  case base =>
    intro visited c table correlation ih
    simp [add, ih, or_and_right, exists_or, withheld]
  case unsupported =>
    intro visited c kind declared ih
    simp [add, ih, NameSet.mem_foldl_insert, or_and_right, exists_or, withheld]

theorem diagnostics_ofNodes (nodes : List FromNode) :
    (ofNodes folding nodes).diagnostics =
      ((visits nodes).filterMap kind?).map unsupportedFrom := by
  apply ofNodes_along (motive := fun visited c =>
    c.diagnostics = (visited.filterMap kind?).map unsupportedFrom)
  case start => rfl
  case base =>
    intro visited c table correlation ih
    simp [add, ih, kind?]
  case unsupported =>
    intro visited c kind declared ih
    simp [add, ih, kind?]

/-- A name stands for the table that was visited last among those it calls. -/
theorem alias_ofNodes (nodes : List FromNode) (k : String) :
    (ofNodes folding nodes).aliases[k]? =
      ((baseTables nodes).findRev? fun t => folding.fold t.correlation = k).map fun t =>
        folding.fold t.table := by
  rw [aliases_ofNodes]
  exact NameMap.getElem?_ofEntries_map (fun t : BaseTable => folding.fold t.correlation) _ _ k

/-- An alias stands for a base table of that correlation name. -/
theorem baseTable_of_alias {nodes : List FromNode} {k v : String}
    (h : (ofNodes folding nodes).aliases[k]? = some v) :
    ∃ t ∈ baseTables nodes, folding.fold t.correlation = k ∧ folding.fold t.table = v := by
  rw [alias_ofNodes, List.findRev?_eq_find?_reverse] at h
  obtain ⟨t, found, rfl⟩ := Option.map_eq_some_iff.mp h
  have member := List.mem_reverse.mp (List.mem_of_find?_eq_some found)
  exact ⟨t, member, by simpa using List.find?_some found, rfl⟩

/-- A name is no alias when no base table has it for its correlation name. -/
theorem alias_eq_none_iff (nodes : List FromNode) (k : String) :
    (ofNodes folding nodes).aliases[k]? = Option.none ↔
      ∀ t ∈ baseTables nodes, folding.fold t.correlation ≠ k := by
  simp [alias_ofNodes]

theorem isEmpty_aliases_iff (nodes : List FromNode) :
    (ofNodes folding nodes).aliases.isEmpty ↔ baseTables nodes = [] := by
  rw [Std.ExtTreeMap.isEmpty_iff]
  constructor
  · intro empty
    apply List.eq_nil_iff_forall_not_mem.mpr
    intro t ht
    have absent : (ofNodes folding nodes).aliases[folding.fold t.correlation]? = Option.none := by
      simp [empty]
    exact (alias_eq_none_iff folding nodes _).mp absent t ht rfl
  · intro empty
    rw [aliases_ofNodes, empty]
    rfl

theorem codes_ofNodes (nodes : List FromNode) :
    ∀ d ∈ (ofNodes folding nodes).diagnostics, d.code = .sqlUnsupportedFrom := by
  intro d hd
  rw [diagnostics_ofNodes] at hd
  obtain ⟨kind, _, rfl⟩ := List.mem_map.mp hd
  rfl

end Correlations

end ColumnOrigin
