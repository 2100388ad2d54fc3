import ColumnOrigin.Proofs.Query.Aliases

/-!
# The names that a FROM clause declares

Declared names are listed from the left of an item, correlations are entered from the right. Both
see every leaf, so no name is lost and none is invented: a base table's is an alias
(`mem_aliases_iff`), an unsupported construct's is unresolved (`mem_unresolved_iff`), and there are
no others.

A join that is not one-sided keeps nothing but the names of what it joins, and these are all of
them, in written order: `Sql.JoinChain.declaredNames_factors`, and with the joins in parentheses
opened `Sql.JoinChain.declaredNames_operands`.
-/

namespace ColumnOrigin

namespace FromNode

/-- Some name that the item declares folds to `k`. -/
def Declares (folding : CaseFolding) (node : FromNode) (k : String) : Prop :=
  ∃ name ∈ node.declaredNames, folding.fold name = k

instance (folding : CaseFolding) (node : FromNode) (k : String) :
    Decidable (node.Declares folding k) :=
  inferInstanceAs (Decidable (∃ name ∈ node.declaredNames, folding.fold name = k))

theorem declaredNames_leaves (node : FromNode) :
    node.declaredNames = node.leaves.flatMap declaredNames := by
  induction node with
  | base table correlation => rfl
  | outerJoin left right ihl ihr => rw [declaredNames, leaves, List.flatMap_append, ihl, ihr]
  | unsupported kind declared => simp [leaves]

theorem exists_mem_flatMap {α β : Type} {items : List α} {f : α → List β} {p : β → Prop} :
    (∃ b ∈ items.flatMap f, p b) ↔ ∃ a ∈ items, ∃ b ∈ f a, p b := by
  simp only [List.mem_flatMap, ← exists_and_right, ← exists_and_left, and_assoc]
  exact exists_comm

/-- An item declares what its leaves declare. -/
theorem declares_iff (folding : CaseFolding) (node : FromNode) (k : String) :
    node.Declares folding k ↔ ∃ leaf ∈ node.leaves, leaf.Declares folding k := by
  rw [Declares, declaredNames_leaves]
  exact exists_mem_flatMap

/-- A leaf is either a base table or unsupported. -/
theorem isSome_of_mem_leaves {node leaf : FromNode} (h : leaf ∈ node.leaves) :
    leaf.baseTable?.isSome ∨ leaf.kind?.isSome := by
  induction node with
  | base table correlation =>
    rw [List.mem_singleton.mp h]
    exact .inl rfl
  | outerJoin left right ihl ihr => exact (List.mem_append.mp h).elim ihl ihr
  | unsupported kind declared =>
    rw [List.mem_singleton.mp h]
    exact .inr rfl

/-- A leaf withholds what it declares if it is unsupported. -/
theorem withholds_iff (folding : CaseFolding) (leaf : FromNode) (k : String) :
    (∃ name ∈ leaf.withheld, folding.fold name = k) ↔
      leaf.kind?.isSome ∧ leaf.Declares folding k := by
  cases leaf <;> simp [withheld, kind?, Declares, declaredNames]

theorem declares_of_baseTable {folding : CaseFolding} {leaf : FromNode} {t : BaseTable}
    (h : leaf.baseTable? = some t) (k : String) :
    leaf.Declares folding k ↔ folding.fold t.correlation = k := by
  cases leaf with
  | base table correlation =>
    cases h
    simp [Declares, declaredNames]
  | outerJoin left right => cases h
  | unsupported kind declared => cases h

end FromNode

namespace Sql

/-- What is joined, in written order. -/
def JoinChain.factors : JoinChain → List TableFactor
  | .single factor => [factor]
  | .join left _ right => left.factors ++ [right]

mutual

/-- The factor, or what is joined inside if it is only parentheses. -/
def TableFactor.operands : TableFactor → List TableFactor
  | .nested inner none => inner.operands
  | factor => [factor]

/-- What is joined, in written order, with parentheses that have no alias opened. -/
def JoinChain.operands : JoinChain → List TableFactor
  | .single factor => factor.operands
  | .join left _ right => left.operands ++ right.operands

end

/-- Any join declares what its two sides declare. -/
theorem JoinChain.declaredNames_join (left : JoinChain) (operator : JoinOperator)
    (right : TableFactor) :
    (JoinChain.join left operator right).toNode.declaredNames =
      left.toNode.declaredNames ++ right.toNode.declaredNames := by
  rw [JoinChain.toNode]
  split <;> rfl

/-- Induction along a chain, with its factors as they are. -/
@[elab_as_elim]
theorem JoinChain.along {motive : JoinChain → Prop}
    (single : ∀ factor, motive (.single factor))
    (join : ∀ left operator right, motive left → motive (.join left operator right)) :
    (chain : JoinChain) → motive chain
  | .single factor => single factor
  | .join left operator right => join left operator right (along single join left)

theorem JoinChain.declaredNames_factors (chain : JoinChain) :
    chain.toNode.declaredNames = chain.factors.flatMap (·.toNode.declaredNames) := by
  induction chain using JoinChain.along with
  | single factor => simp [JoinChain.toNode, JoinChain.factors]
  | join left operator right ih =>
    rw [declaredNames_join, ih, JoinChain.factors, List.flatMap_append, List.flatMap_singleton]

mutual

theorem TableFactor.declaredNames_operands : (factor : TableFactor) →
    factor.toNode.declaredNames = factor.operands.flatMap (·.toNode.declaredNames)
  | .nested inner none => by
    rw [TableFactor.toNode, TableFactor.operands, inner.declaredNames_operands]
  | .nested _ (some _) | .table _ _ _ | .derived _ | .other _ _ => by
    simp [TableFactor.operands]

theorem JoinChain.declaredNames_operands : (chain : JoinChain) →
    chain.toNode.declaredNames = chain.operands.flatMap (·.toNode.declaredNames)
  | .single factor => by
    rw [JoinChain.toNode, JoinChain.operands, factor.declaredNames_operands]
  | .join left operator right => by
    rw [JoinChain.declaredNames_join, left.declaredNames_operands, right.declaredNames_operands,
      JoinChain.operands, List.flatMap_append]

end

end Sql

namespace Correlations
open FromNode
variable (folding : CaseFolding)

/-- The aliases are the names that base tables declare. -/
theorem mem_aliases_iff (nodes : List FromNode) (k : String) :
    k ∈ (ofNodes folding nodes).aliases ↔
      ∃ node ∈ nodes, ∃ leaf ∈ node.leaves, leaf.baseTable?.isSome ∧ leaf.Declares folding k := by
  rw [Std.ExtTreeMap.mem_iff_isSome_getElem?, alias_isSome_iff]
  simp only [tables, List.mem_filterMap]
  constructor
  · rintro ⟨node, hn, t, ⟨leaf, hl, ht⟩, called⟩
    exact ⟨node, hn, leaf, hl, by simp [ht], (declares_of_baseTable ht k).mpr called⟩
  · rintro ⟨node, hn, leaf, hl, isBase, declares⟩
    obtain ⟨t, ht⟩ := Option.isSome_iff_exists.mp isBase
    exact ⟨node, hn, t, ⟨leaf, hl, ht⟩, (declares_of_baseTable ht k).mp declares⟩

/-- The unresolved names are those that unsupported constructs declare. -/
theorem mem_unresolved_iff (nodes : List FromNode) (k : String) :
    k ∈ (ofNodes folding nodes).unresolved ↔
      ∃ node ∈ nodes, ∃ leaf ∈ node.leaves, leaf.kind?.isSome ∧ leaf.Declares folding k := by
  simp only [mem_unresolved_ofNodes, withholds_iff, mem_visits]
  constructor
  · rintro ⟨leaf, ⟨node, hn, hl⟩, declares⟩
    exact ⟨node, hn, leaf, hl, declares⟩
  · rintro ⟨node, hn, leaf, hl, declares⟩
    exact ⟨leaf, ⟨node, hn, hl⟩, declares⟩

/-- No name is lost on the way, and none is invented. -/
theorem mem_aliases_or_unresolved_iff (nodes : List FromNode) (k : String) :
    k ∈ (ofNodes folding nodes).aliases ∨ k ∈ (ofNodes folding nodes).unresolved ↔
      ∃ node ∈ nodes, node.Declares folding k := by
  rw [mem_aliases_iff, mem_unresolved_iff]
  constructor
  · rintro (⟨node, hn, leaf, hl, -, declares⟩ | ⟨node, hn, leaf, hl, -, declares⟩) <;>
      exact ⟨node, hn, (declares_iff folding node k).mpr ⟨leaf, hl, declares⟩⟩
  · rintro ⟨node, hn, declares⟩
    obtain ⟨leaf, hl, declares⟩ := (declares_iff folding node k).mp declares
    rcases isSome_of_mem_leaves hl with isBase | unsupported
    · exact .inl ⟨node, hn, leaf, hl, isBase, declares⟩
    · exact .inr ⟨node, hn, leaf, hl, unsupported, declares⟩

/-- **Declared names are accounted for.** The aliases and the unresolved names together are the
folded names that the items declare; the aliases are those declared by base tables, the unresolved
ones those declared by unsupported constructs. And an item made from factors with joins between
them, of whatever kind and however nested, declares what the factors declare, in written order. -/
theorem declared_names_accounted :
    (∀ (nodes : List FromNode) (k : String),
      (k ∈ (ofNodes folding nodes).aliases ∨ k ∈ (ofNodes folding nodes).unresolved ↔
          ∃ node ∈ nodes, node.Declares folding k) ∧
        (k ∈ (ofNodes folding nodes).aliases ↔
          ∃ node ∈ nodes, ∃ leaf ∈ node.leaves,
            leaf.baseTable?.isSome ∧ leaf.Declares folding k) ∧
        (k ∈ (ofNodes folding nodes).unresolved ↔
          ∃ node ∈ nodes, ∃ leaf ∈ node.leaves, leaf.kind?.isSome ∧ leaf.Declares folding k)) ∧
      ∀ chain : Sql.JoinChain,
        chain.toNode.declaredNames = chain.factors.flatMap (·.toNode.declaredNames) ∧
          chain.toNode.declaredNames = chain.operands.flatMap (·.toNode.declaredNames) := by
  refine ⟨fun nodes k => ⟨?_, ?_, ?_⟩, fun chain => ⟨?_, ?_⟩⟩
  · exact mem_aliases_or_unresolved_iff folding nodes k
  · exact mem_aliases_iff folding nodes k
  · exact mem_unresolved_iff folding nodes k
  · exact chain.declaredNames_factors
  · exact chain.declaredNames_operands

end Correlations

end ColumnOrigin
