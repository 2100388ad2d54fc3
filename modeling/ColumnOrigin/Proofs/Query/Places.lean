import ColumnOrigin.Proofs.Query.Resolver
import Mathlib.Data.List.Basic

/-!
# The places of a FROM clause

Each factor that is written in a FROM clause has its place there: in sight, or hidden by a join that
attribution does not look into. What the FROM clause as a whole amounts to is said place by place:

* `baseTables_of_places`: only tables in sight are entered among the aliases;
* `mem_unresolved_iff_withholds`: a name is unresolved when some place withholds it;
* `reported_of_place`: what a place is unsupported for is reported.
-/

namespace ColumnOrigin

namespace Sql

/-- The name that a factor's columns are qualified by. -/
def TableFactor.name? : TableFactor → Option String
  | .table name _ correlation => name.getLast?.map fun table => correlation.getD table
  | .derived correlation => correlation
  | .nested _ correlation => correlation
  | .other _ correlation => correlation

def TableFactor.isTable : TableFactor → Bool
  | .table name _ _ => !name.isEmpty
  | _ => false

/-- The factors whose names are collected. Of those that are neither tables, queries nor joins,
only TABLE(e) and UNNEST are among them. -/
def TableFactor.isDeclaring : TableFactor → Bool
  | .other .tableFunction _ => true
  | .other .unnest _ => true
  | .other _ _ => false
  | _ => true

/-- What a join that is not one-sided hides its operands by. -/
def JoinOperator.hides? (operator : JoinOperator) : Option String :=
  if operator.isOneSided then none else some operator.description

/-- A factor in its place. -/
structure Place where
  factor : TableFactor
  /-- What the outermost unsupported join around the factor is called. -/
  hiddenBy : Option String
  /-- Some join around the factor has an alias, which is then all that the join declares. -/
  enclosed : Bool
deriving DecidableEq

mutual

/-- The places in a factor, its own among them unless it is only parentheses. -/
def TableFactor.places (hiddenBy : Option String) (enclosed : Bool) : TableFactor → List Place
  | .nested inner none => inner.places hiddenBy enclosed
  | .nested inner (some correlation) =>
    ⟨.nested inner (some correlation), hiddenBy, enclosed⟩ ::
      inner.places (hiddenBy.or (some "aliased nested join")) true
  | factor => [⟨factor, hiddenBy, enclosed⟩]

def JoinChain.places (hiddenBy : Option String) (enclosed : Bool) : JoinChain → List Place
  | .single factor => factor.places hiddenBy enclosed
  | .join left operator right =>
    left.places (hiddenBy.or operator.hides?) enclosed ++
      right.places (hiddenBy.or operator.hides?) enclosed

end

/-- The places of a FROM clause in the order in which they are visited. -/
def Select.places (s : Select) : List Place :=
  s.sources.flatMap fun chain => (chain.places none false).reverse

namespace Place

/-- The table that a place enters among the aliases: one in sight, arguments or not. -/
def baseTable? : Place → Option BaseTable
  | ⟨.table name _ correlation, none, _⟩ =>
    name.getLast?.map fun table => ⟨table, correlation.getD table⟩
  | _ => none

/-- What the diagnostic about a place is raised for: the join that hides it, or else its factor. -/
def kind? : Place → Option String
  | ⟨_, some around, _⟩ => some around
  | ⟨factor, none, _⟩ => factor.toNode.kind?

/-- The place sends the columns of its name to the default table. -/
def withholds (p : Place) : Bool :=
  p.factor.isDeclaring && !p.enclosed && (p.hiddenBy.isSome || !p.factor.isTable)

def withheld (p : Place) : List String := if p.withholds then p.factor.name?.toList else []

end Place

/-- Some place withholds a name that is this name to the database. -/
def Select.Withholds (folding : CaseFolding) (s : Select) (name : String) : Prop :=
  ∃ p ∈ s.places, ∃ known ∈ p.withheld, folding.fold known = folding.fold name

/-! ## Places and leaves -/

theorem kind_of_hidden {p : Place} {around : String} (h : p.hiddenBy = some around) :
    p.kind? = some around := by
  obtain ⟨factor, hiddenBy, enclosed⟩ := p
  obtain rfl : hiddenBy = some around := h
  rfl

/-- What is reported enters no table. -/
theorem baseTable_of_kind {p : Place} {kind : String} (h : p.kind? = some kind) :
    p.baseTable? = none := by
  obtain ⟨factor, hiddenBy, enclosed⟩ := p
  cases factor with
  | table name isCall correlation =>
    cases hiddenBy with
    | some around => rfl
    | none => cases hn : name.getLast? <;> simp_all [Place.kind?, Place.baseTable?,
        TableFactor.toNode, FromNode.kind?]
  | nested _ _ | derived _ | other _ _ => rfl

theorem withheld_of_enclosed {p : Place} (h : p.enclosed) : p.withheld = [] := by
  simp [Place.withheld, Place.withholds, h]

mutual

/-- What is around a factor is around all its places. -/
theorem TableFactor.around_places {hiddenBy : Option String} {enclosed : Bool}
    (factor : TableFactor) : ∀ p ∈ factor.places hiddenBy enclosed,
      (∀ around, hiddenBy = some around → p.hiddenBy = some around) ∧ (enclosed → p.enclosed) := by
  match factor with
  | .nested inner none => simpa only [TableFactor.places] using inner.around_places
  | .nested inner (some _) =>
    simp only [TableFactor.places, List.forall_mem_cons]
    refine ⟨⟨fun _ => id, id⟩, fun p hp => ?_⟩
    obtain ⟨hides, encloses⟩ := inner.around_places p hp
    refine ⟨?_, fun _ => encloses rfl⟩
    rintro around rfl
    exact hides around Option.some_or
  | .table _ _ _ | .derived _ | .other _ _ => simp [TableFactor.places]

theorem JoinChain.around_places {hiddenBy : Option String} {enclosed : Bool}
    (chain : JoinChain) : ∀ p ∈ chain.places hiddenBy enclosed,
      (∀ around, hiddenBy = some around → p.hiddenBy = some around) ∧ (enclosed → p.enclosed) := by
  match chain with
  | .single factor => simpa only [JoinChain.places] using factor.around_places
  | .join left operator right =>
    simp only [JoinChain.places, List.mem_append]
    intro p hp
    obtain ⟨hides, encloses⟩ := hp.elim (left.around_places p) (right.around_places p)
    refine ⟨?_, encloses⟩
    rintro around rfl
    exact hides around Option.some_or

end

/-- Nothing inside a join that has an alias is withheld. -/
theorem withheld_inside (inner : JoinChain) (hiddenBy : Option String) :
    (inner.places hiddenBy true).flatMap Place.withheld = [] := by
  apply List.flatMap_eq_nil_iff.mpr
  intro p hp
  exact withheld_of_enclosed ((inner.around_places p hp).2 rfl)

mutual

/-- A join that hides its places declares the names that they withhold. -/
theorem TableFactor.declaredNames_toNode (around : String) (factor : TableFactor) :
    factor.toNode.declaredNames = (factor.places (some around) false).flatMap (·.withheld) := by
  match factor with
  | .table name _ correlation =>
    cases hn : name.getLast? <;>
      simp [TableFactor.toNode, TableFactor.places, Place.withheld, Place.withholds,
        TableFactor.isDeclaring, TableFactor.name?, hn, FromNode.declaredNames]
  | .nested inner none =>
    simpa only [TableFactor.toNode, TableFactor.places] using inner.declaredNames_toNode around
  | .nested inner (some _) =>
    simp only [TableFactor.places, List.flatMap_cons, withheld_inside]
    rfl
  | .derived none | .derived (some _) => rfl
  | .other kind correlation => cases kind <;> cases correlation <;> rfl

theorem JoinChain.declaredNames_toNode (around : String) (chain : JoinChain) :
    chain.toNode.declaredNames = (chain.places (some around) false).flatMap (·.withheld) := by
  match chain with
  | .single factor =>
    simpa only [JoinChain.toNode, JoinChain.places] using factor.declaredNames_toNode around
  | .join left operator right =>
    simp only [JoinChain.places, List.flatMap_append, JoinChain.toNode, Option.some_or]
    rw [← left.declaredNames_toNode, ← right.declaredNames_toNode]
    split <;> rfl

end

/-- Leaves of a FROM tree that amount to the same as some places. -/
structure Agree (leaves : List FromNode) (places : List Place) : Prop where
  tables : leaves.filterMap FromNode.baseTable? = places.filterMap Place.baseTable?
  names : leaves.flatMap FromNode.withheld = places.flatMap Place.withheld
  kinds : ∀ p ∈ places, ∀ kind, p.kind? = some kind → ∃ leaf ∈ leaves, leaf.kind? = some kind

theorem Agree.append {leaves₁ leaves₂ : List FromNode} {places₁ places₂ : List Place}
    (h₁ : Agree leaves₁ places₁) (h₂ : Agree leaves₂ places₂) :
    Agree (leaves₁ ++ leaves₂) (places₁ ++ places₂) := by
  refine ⟨?_, ?_, ?_⟩
  · simp only [List.filterMap_append, h₁.tables, h₂.tables]
  · simp only [List.flatMap_append, h₁.names, h₂.names]
  · intro p hp kind hk
    rcases List.mem_append.mp hp with hp | hp
    · obtain ⟨leaf, hl, same⟩ := h₁.kinds p hp kind hk
      exact ⟨leaf, List.mem_append_left _ hl, same⟩
    · obtain ⟨leaf, hl, same⟩ := h₂.kinds p hp kind hk
      exact ⟨leaf, List.mem_append_right _ hl, same⟩

/-- An unsupported construct makes one leaf of its places, which declares what they withhold. -/
theorem Agree.unread {kind : String} {declared : List String} {places : List Place}
    (reported : ∀ p ∈ places, p.kind? = some kind)
    (names : declared = places.flatMap Place.withheld) :
    Agree [.unsupported kind declared] places := by
  refine ⟨?_, ?_, ?_⟩
  · refine (List.filterMap_eq_nil_iff.mpr ?_).symm
    intro p hp
    exact baseTable_of_kind (reported p hp)
  · simpa only [List.flatMap_singleton, FromNode.withheld] using names
  · intro p hp same hk
    rw [reported p hp] at hk
    exact ⟨_, List.mem_singleton_self _, hk⟩

/-- An unsupported factor in sight is a leaf of its own. -/
theorem Agree.single {factor : TableFactor} {kind : String} {declared : List String}
    (mapped : factor.toNode = .unsupported kind declared)
    (names : declared = (⟨factor, none, false⟩ : Place).withheld) :
    Agree [.unsupported kind declared] [⟨factor, none, false⟩] := by
  apply Agree.unread
  · rw [List.forall_mem_singleton]
    simp only [Place.kind?, mapped, FromNode.kind?]
  · rwa [List.flatMap_singleton]

mutual

theorem TableFactor.agree (factor : TableFactor) :
    Agree factor.toNode.leaves (factor.places none false) := by
  match factor with
  | .table name isCall correlation =>
    cases hn : name.getLast? with
    | none =>
      simp only [TableFactor.toNode, hn, TableFactor.places]
      apply Agree.single
      · simp only [TableFactor.toNode, hn]
      · simp [Place.withheld, TableFactor.name?, hn]
    | some table =>
      have nonempty : name ≠ [] := by rintro rfl; simp at hn
      refine ⟨?_, ?_, ?_⟩ <;>
        simp [TableFactor.toNode, hn, TableFactor.places, FromNode.leaves, FromNode.baseTable?,
          Place.baseTable?, FromNode.withheld, Place.withheld, Place.withholds, nonempty,
          TableFactor.isTable, Place.kind?, FromNode.kind?]
  | .nested inner none => simpa only [TableFactor.toNode, TableFactor.places] using inner.agree
  | .nested inner (some correlation) =>
    simp only [TableFactor.places, Option.none_or]
    apply Agree.unread
    · rw [List.forall_mem_cons]
      exact ⟨rfl, fun p hp => kind_of_hidden ((inner.around_places p hp).1 _ rfl)⟩
    · rw [List.flatMap_cons, withheld_inside]
      rfl
  | .derived none | .derived (some _) => exact .single rfl rfl
  | .other kind correlation => cases kind <;> cases correlation <;> exact .single rfl rfl

theorem JoinChain.agree (chain : JoinChain) :
    Agree chain.toNode.leaves (chain.places none false) := by
  match chain with
  | .single factor => simpa only [JoinChain.toNode, JoinChain.places] using factor.agree
  | .join left operator right =>
    by_cases oneSided : operator.isOneSided
    · simp only [JoinChain.toNode, JoinChain.places, JoinOperator.hides?, oneSided, ↓reduceIte,
        Option.or_none, FromNode.leaves]
      exact left.agree.append right.agree
    · simp only [JoinChain.toNode, JoinChain.places, JoinOperator.hides?, oneSided,
        Bool.false_eq_true, ↓reduceIte, Option.none_or, FromNode.leaves]
      apply Agree.unread
      · intro p hp
        apply kind_of_hidden
        rcases List.mem_append.mp hp with hp | hp
        · exact (left.around_places p hp).1 _ rfl
        · exact (right.around_places p hp).1 _ rfl
      · rw [List.flatMap_append, left.declaredNames_toNode operator.description,
          right.declaredNames_toNode operator.description]

end

/-! ## The FROM clause as a whole -/

variable {s : Select}

theorem baseTables_of_places :
    FromNode.baseTables s.shape.sources = s.places.filterMap Place.baseTable? := by
  simp only [FromNode.baseTables, FromNode.visits, Select.shape, Select.places, List.flatMap_map,
    List.filterMap_flatMap]
  apply List.flatMap_congr
  intro chain _
  rw [List.filterMap_reverse, chain.agree.tables, List.filterMap_reverse]

theorem mem_unresolved_iff_withholds (folding : CaseFolding) (name : String) :
    folding.fold name ∈ (s.correlations folding).unresolved ↔ s.Withholds folding name := by
  have names (chain : JoinChain) (known : String) :
      (∃ leaf ∈ chain.toNode.leaves, known ∈ leaf.withheld) ↔
        ∃ p ∈ chain.places none false, known ∈ p.withheld := by
    rw [← List.mem_flatMap, ← List.mem_flatMap, chain.agree.names]
  rw [Select.correlations, Correlations.mem_unresolved_ofNodes, Select.Withholds]
  constructor
  · rintro ⟨leaf, hl, known, hk, same⟩
    obtain ⟨_, hn, hl⟩ := FromNode.mem_visits.mp hl
    obtain ⟨chain, hc, rfl⟩ := List.mem_map.mp hn
    obtain ⟨p, hp, hk⟩ := (names chain known).mp ⟨leaf, hl, hk⟩
    exact ⟨p, List.mem_flatMap.mpr ⟨chain, hc, List.mem_reverse.mpr hp⟩, known, hk, same⟩
  · rintro ⟨p, hp, known, hk, same⟩
    obtain ⟨chain, hc, hp⟩ := List.mem_flatMap.mp hp
    obtain ⟨leaf, hl, hk⟩ := (names chain known).mpr ⟨p, List.mem_reverse.mp hp, hk⟩
    exact ⟨leaf, FromNode.mem_visits.mpr ⟨_, List.mem_map_of_mem hc, hl⟩, known, hk, same⟩

theorem reported_of_place {folding : CaseFolding} {p : Place} (hp : p ∈ s.places) {kind : String}
    (hk : p.kind? = some kind) :
    Correlations.unsupportedFrom kind ∈ (s.correlations folding).diagnostics := by
  rw [Select.correlations, Correlations.diagnostics_ofNodes]
  obtain ⟨chain, hc, hp⟩ := List.mem_flatMap.mp hp
  obtain ⟨leaf, hl, same⟩ := chain.agree.kinds p (List.mem_reverse.mp hp) kind hk
  apply List.mem_map_of_mem
  apply List.mem_filterMap.mpr
  exact ⟨leaf, FromNode.mem_visits.mpr ⟨_, List.mem_map_of_mem hc, hl⟩, same⟩

end Sql

end ColumnOrigin
