import ColumnOrigin.Proofs.Query.Nesting

/-!
# What a hiding join takes with it

A chain is read from the left, and a join that is not one-sided hides all that is joined so far, an
earlier hiding join with it. So only the last such join is left to see (`Sql.JoinChain.LastHides`):
the factors up to it are one unsupported leaf, and those after it are as they would be alone.

`Correlations.last_hiding_join` says what this means for the aliases, the unresolved names and the
diagnostics of the chain.
-/

namespace ColumnOrigin

namespace Sql

/-- The operators in written order. Operator `i` stands between the factors `i` and `i + 1`. -/
def JoinChain.operators : JoinChain → List JoinOperator
  | .single _ => []
  | .join left operator _ => left.operators ++ [operator]

/-- The operator at place `m` is the last one that is not one-sided. -/
structure JoinChain.LastHides (chain : JoinChain) (m : Nat) (operator : JoinOperator) : Prop where
  stands : chain.operators[m]? = some operator
  hides : ¬ operator.isOneSided
  after : ∀ later ∈ chain.operators.drop (m + 1), later.isOneSided

theorem JoinChain.length_factors (chain : JoinChain) :
    chain.factors.length = chain.operators.length + 1 := by
  induction chain using JoinChain.along with
  | single factor => rfl
  | join left operator right ih =>
    rw [factors, operators, List.length_append, List.length_append, ih]
    rfl

namespace JoinChain.LastHides
variable {left : JoinChain} {operator last : JoinOperator} {right : TableFactor} {m : Nat}

theorem lt_operators {chain : JoinChain} (h : chain.LastHides m last) :
    m < chain.operators.length :=
  (List.getElem?_eq_some_iff.mp h.stands).1

/-- A further one-sided join hides nothing. -/
theorem join (h : left.LastHides m last) (oneSided : operator.isOneSided) :
    (JoinChain.join left operator right).LastHides m last := by
  have within := h.lt_operators
  refine ⟨?_, h.hides, ?_⟩
  · rw [operators, List.getElem?_append_left within]
    exact h.stands
  · rw [operators, List.drop_append_of_le_length within, List.forall_mem_append]
    exact ⟨h.after, by simpa using oneSided⟩

/-- A further join that is not one-sided hides all. -/
theorem join_of_hides (hides : ¬ operator.isOneSided) :
    (JoinChain.join left operator right).LastHides left.operators.length operator := by
  have atEnd : (left.operators ++ [operator]).length ≤ left.operators.length + 1 := by simp
  refine ⟨?_, hides, ?_⟩
  · rw [operators, List.getElem?_concat_length]
  · rw [operators, List.drop_of_length_le atEnd]
    nofun

/-- The last operator of a chain either is the last that hides, or comes after it. -/
theorem of_join (h : (JoinChain.join left operator right).LastHides m last) :
    (m = left.operators.length ∧ last = operator) ∨
      (left.LastHides m last ∧ operator.isOneSided) := by
  obtain ⟨stands, hides, after⟩ := h
  rw [operators] at stands after
  have bound := (List.getElem?_eq_some_iff.mp stands).1
  rw [List.length_append, List.length_singleton] at bound
  by_cases atEnd : m = left.operators.length
  · subst atEnd
    rw [List.getElem?_concat_length] at stands
    exact .inl ⟨rfl, (Option.some.inj stands).symm⟩
  · have within : m < left.operators.length := by omega
    rw [List.getElem?_append_left within] at stands
    rw [List.drop_append_of_le_length within, List.forall_mem_append] at after
    exact .inr ⟨⟨stands, hides, after.1⟩, after.2 operator (List.mem_singleton.mpr rfl)⟩

end JoinChain.LastHides

/-- Either some join of a chain hides, and then one is the last, or all are one-sided. -/
theorem JoinChain.oneSided_or_lastHides (chain : JoinChain) :
    (∀ operator ∈ chain.operators, operator.isOneSided) ∨
      ∃ m operator, chain.LastHides m operator := by
  induction chain using JoinChain.along with
  | single factor => exact .inl nofun
  | join left operator right ih =>
    by_cases oneSided : operator.isOneSided
    · rcases ih with all | ⟨m, last, h⟩
      · left
        rw [operators, List.forall_mem_append]
        exact ⟨all, by simpa using oneSided⟩
      · exact .inr ⟨m, last, h.join oneSided⟩
    · exact .inr ⟨_, operator, .join_of_hides oneSided⟩

/-- Between one-sided joins the leaves are those of the factors. -/
theorem JoinChain.leaves_of_operators (chain : JoinChain)
    (h : ∀ operator ∈ chain.operators, operator.isOneSided) :
    chain.toNode.leaves = chain.factors.flatMap (·.toNode.leaves) := by
  induction chain using JoinChain.along with
  | single factor => simp [toNode, factors]
  | join left operator right ih =>
    rw [operators, List.forall_mem_append] at h
    have oneSided := h.2 operator (List.mem_singleton.mpr rfl)
    rw [toNode, if_pos oneSided, FromNode.leaves, ih h.1, factors, List.flatMap_append,
      List.flatMap_singleton]

/-- The last hiding join and all before it are one leaf; after it come the leaves of the factors. -/
theorem JoinChain.leaves_of_lastHides (chain : JoinChain) {m : Nat} {last : JoinOperator}
    (h : chain.LastHides m last) :
    chain.toNode.leaves =
      .unsupported last.description
          ((chain.factors.take (m + 2)).flatMap (·.toNode.declaredNames)) ::
        (chain.factors.drop (m + 2)).flatMap (·.toNode.leaves) := by
  induction chain using JoinChain.along with
  | single factor => cases h.stands
  | join left operator right ih =>
    have length := left.length_factors
    obtain ⟨rfl, rfl⟩ | ⟨earlier, oneSided⟩ := h.of_join
    · -- The join hides all there is, and nothing comes after it.
      have all : (JoinChain.join left last right).factors.length ≤ left.operators.length + 2 := by
        rw [factors, List.length_append, List.length_singleton]
        omega
      rw [List.take_of_length_le all, List.drop_of_length_le all, ← declaredNames_factors, toNode,
        if_neg h.hides]
      rfl
    · -- The factor stands after the join that hides, so it only adds its leaves.
      have within : m + 2 ≤ left.factors.length := by
        have := earlier.lt_operators
        omega
      rw [toNode, if_pos oneSided, FromNode.leaves, ih earlier, factors,
        List.take_append_of_le_length within, List.drop_append_of_le_length within,
        List.flatMap_append, List.flatMap_singleton, List.cons_append]

end Sql

namespace Correlations
open FromNode
variable (folding : CaseFolding)

/-- What comes of some factors of a chain that nothing hides. They are visited from the right. -/
def ofFactors (factors : List Sql.TableFactor) : Correlations :=
  ofNodes folding (factors.reverse.map (·.toNode))

theorem visits_of_factors (factors : List Sql.TableFactor) :
    visits (factors.reverse.map (·.toNode)) =
      (factors.flatMap (·.toNode.leaves)).reverse := by
  rw [visits, List.flatMap_map, List.reverse_flatMap]
  rfl

theorem mem_aliases_ofFactors (factors : List Sql.TableFactor) (k : String) :
    k ∈ (ofFactors folding factors).aliases ↔
      ∃ factor ∈ factors, ∃ leaf ∈ factor.toNode.leaves,
        leaf.baseTable?.isSome ∧ leaf.Declares folding k := by
  rw [ofFactors, mem_aliases_iff]
  simp

theorem mem_unresolved_ofFactors (factors : List Sql.TableFactor) (k : String) :
    k ∈ (ofFactors folding factors).unresolved ↔
      ∃ factor ∈ factors, ∃ leaf ∈ factor.toNode.leaves,
        leaf.kind?.isSome ∧ leaf.Declares folding k := by
  rw [ofFactors, mem_unresolved_iff]
  simp

/-- Each factor leaves its own diagnostics, the last factor first. -/
theorem diagnostics_ofFactors (factors : List Sql.TableFactor) :
    (ofFactors folding factors).diagnostics =
      factors.reverse.flatMap fun factor => (ofNodes folding [factor.toNode]).diagnostics := by
  simp only [ofFactors, diagnostics_ofNodes, visits, List.flatMap_map, List.filterMap_flatMap,
    List.map_flatMap, List.flatMap_cons, List.flatMap_nil, List.append_nil]

theorem ofNodes_of_operators {chain : Sql.JoinChain}
    (h : ∀ operator ∈ chain.operators, operator.isOneSided) :
    ofNodes folding [chain.toNode] = ofFactors folding chain.factors := by
  apply ofNodes_of_visits
  rw [visits_of_factors, ← chain.leaves_of_operators h, visits_cons, visits_nil, List.append_nil]

/-- The hiding join is visited last. -/
theorem ofNodes_of_lastHides {chain : Sql.JoinChain} {m : Nat} {operator : Sql.JoinOperator}
    (h : chain.LastHides m operator) :
    ofNodes folding [chain.toNode] =
      add folding (.unsupported operator.description
          ((chain.factors.take (m + 2)).flatMap (·.toNode.declaredNames)))
        (ofFactors folding (chain.factors.drop (m + 2))) := by
  rw [ofFactors, ← ofNodes_concat]
  apply ofNodes_of_visits
  rw [visits, visits, List.flatMap_append, ← visits, ← visits, visits_of_factors, visits_cons,
    visits_nil, List.append_nil, chain.leaves_of_lastHides h, List.reverse_cons]
  rfl

/-- **What a hiding join takes with it.** If some join of a chain is not one-sided, let `m` be the
place of the last such. The factors up to it enter no alias, all the names they declare are
unresolved, and one diagnostic is left for them together, which names that join and comes after the
diagnostics of the later factors. These are as they would be without it. If all joins are one-sided,
all factors are as they would be without a join. -/
theorem last_hiding_join (chain : Sql.JoinChain) :
    let found := ofNodes folding [chain.toNode]
    (∀ m operator, chain.LastHides m operator →
      let hidden := chain.factors.take (m + 2)
      let later := chain.factors.drop (m + 2)
      found.aliases = (ofFactors folding later).aliases ∧
      (∀ k, k ∈ found.aliases ↔ ∃ factor ∈ later, ∃ leaf ∈ factor.toNode.leaves,
        leaf.baseTable?.isSome ∧ leaf.Declares folding k) ∧
      (∀ k, k ∈ found.unresolved ↔ (∃ factor ∈ hidden, factor.toNode.Declares folding k) ∨
        ∃ factor ∈ later, ∃ leaf ∈ factor.toNode.leaves,
          leaf.kind?.isSome ∧ leaf.Declares folding k) ∧
      found.diagnostics =
        (later.reverse.flatMap fun factor => (ofNodes folding [factor.toNode]).diagnostics) ++
        [{ code := .sqlUnsupportedFrom
           severity := .warn
           message := "Unsupported " ++ operator.description ++
             " in FROM clause; its columns resolve to the default table"
           subject := some operator.description }]) ∧
    ((∀ operator ∈ chain.operators, operator.isOneSided) →
      found = ofFactors folding chain.factors ∧
      ∀ k, k ∈ found.aliases ↔ ∃ factor ∈ chain.factors, ∃ leaf ∈ factor.toNode.leaves,
        leaf.baseTable?.isSome ∧ leaf.Declares folding k) ∧
    ((∀ operator ∈ chain.operators, operator.isOneSided) ∨
      ∃ m operator, chain.LastHides m operator) := by
  intro found
  refine ⟨?_, ?_, chain.oneSided_or_lastHides⟩
  · intro m operator h hidden later
    have parts : found = add folding (.unsupported operator.description
        (hidden.flatMap (·.toNode.declaredNames))) (ofFactors folding later) :=
      ofNodes_of_lastHides folding h
    have aliases : found.aliases = (ofFactors folding later).aliases := by
      rw [parts]
      rfl
    refine ⟨aliases, ?_, ?_, ?_⟩
    · intro k
      rw [aliases, mem_aliases_ofFactors]
    · intro k
      have declares : (∃ name ∈ hidden.flatMap (·.toNode.declaredNames), folding.fold name = k) ↔
          ∃ factor ∈ hidden, factor.toNode.Declares folding k :=
        exists_mem_flatMap
      rw [parts, add, NameSet.mem_foldl_insert, declares, mem_unresolved_ofFactors, or_comm]
    · rw [← diagnostics_ofFactors, parts]
      rfl
  · intro h
    have all : found = ofFactors folding chain.factors := ofNodes_of_operators folding h
    refine ⟨all, ?_⟩
    intro k
    rw [all, mem_aliases_ofFactors]

/-- No join hides here. -/
def shown : Sql.JoinChain :=
  .join (.single (.table ["t5"] false (some "f"))) .leftOuter (.derived (some "g"))

/-- Two joins hide. A third is in parentheses before the last of the two, and a construct that is
not looked into comes after it. -/
def mixed : Sql.JoinChain :=
  .join (.join (.join (.join (.join
    (.single (.table ["t1"] false (some "a"))) .leftOuter (.derived (some "b"))) .cross
    (.nested (.join (.single (.table ["t2"] false (some "c"))) .inner
      (.table ["t3"] false Option.none)) Option.none)) .leftOuter
    (.table ["t4"] false (some "d"))) .fullOuter
    (.other .unnest (some "e"))) .rightOuter
    (.nested shown Option.none)

/-- Only the full join is reported, after the subquery that comes later. -/
theorem last_hiding_join_mixed :
    let found := ofNodes .upper [mixed.toNode]
    mixed.LastHides 3 .fullOuter ∧ "F" ∈ found.aliases ∧ "A" ∉ found.aliases ∧
      (∀ k ∈ ["A", "B", "C", "T3", "D", "E", "G"], k ∈ found.unresolved) ∧
      found.diagnostics.map (·.subject) = [some "derived table", some "full outer join"] ∧
      (∀ operator ∈ shown.operators, operator.isOneSided) ∧
      "F" ∈ (ofNodes .upper [shown.toNode]).aliases := by
  intro found
  have hides : mixed.LastHides 3 .fullOuter := ⟨rfl, by decide, by decide⟩
  have oneSided : ∀ operator ∈ shown.operators, operator.isOneSided := by decide
  obtain ⟨-, keys, unresolved, diagnostics⟩ := (last_hiding_join .upper mixed).1 3 _ hides
  obtain ⟨-, keys'⟩ := (last_hiding_join .upper shown).2.1 oneSided
  refine ⟨hides, ?_, ?_, ?_, ?_, oneSided, ?_⟩
  · rw [keys]
    decide +kernel
  · rw [keys]
    decide +kernel
  · intro k hk
    rw [unresolved]
    revert k
    decide +kernel
  · rw [diagnostics]
    decide +kernel
  · rw [keys']
    decide +kernel

end Correlations

end ColumnOrigin
