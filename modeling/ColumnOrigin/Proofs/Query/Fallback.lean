import ColumnOrigin.Proofs.Query.Places

/-!
# What falls back to the default table

The columns of a name fall back when some place withholds the name, and else they belong to what
the name stands for (`tableOf_of_place`). From it follow the two main results: which aliases of
unsupported constructs fall back, and what becomes of a function that is called in a FROM clause.
-/

namespace ColumnOrigin

namespace Sql

/-- A call that is read by a keyword of its own, such as LATERAL or JSON_TABLE. -/
def TableFactor.isMarkedCall : TableFactor → Bool
  | .other .pivot _ => false
  | .other .unpivot _ => false
  | .other .matchRecognize _ => false
  | .other _ _ => true
  | _ => false

/-- A function with its arguments, whatever it is read as. -/
def TableFactor.isCall : TableFactor → Bool
  | .table (_ :: _) isCall _ => isCall
  | factor => factor.isMarkedCall

/-- A place other than `p` withholds the name. -/
def Select.WithholdsElsewhere (folding : CaseFolding) (s : Select) (p : Place) (name : String) :
    Prop :=
  ∃ other ∈ s.places, other ≠ p ∧
    ∃ known ∈ other.withheld, folding.fold known = folding.fold name

instance (folding : CaseFolding) (s : Select) (p : Place) (name : String) :
    Decidable (s.WithholdsElsewhere folding p name) :=
  inferInstanceAs (Decidable (∃ other ∈ s.places, other ≠ p ∧
    ∃ known ∈ other.withheld, folding.fold known = folding.fold name))

/-- The table that a name stands for unless it is withheld: the last visited of those it calls,
or else the name itself. -/
def Select.standsFor (folding : CaseFolding) (s : Select) (name : String) : String :=
  match (s.places.filterMap Place.baseTable?).findRev? fun t =>
      folding.fold t.correlation = folding.fold name with
  | some t => folding.fold t.table
  | none => folding.fold name

variable {s : Select} {p : Place} {n : String}

theorem alias_of_places (folding : CaseFolding) (name : String) :
    (s.correlations folding).aliases[folding.fold name]?.getD (folding.fold name) =
      s.standsFor folding name := by
  rw [Select.correlations, Correlations.alias_ofNodes, baseTables_of_places, Select.standsFor]
  cases (s.places.filterMap Place.baseTable?).findRev? fun t =>
    folding.fold t.correlation = folding.fold name <;> rfl

/-- Whether the name of a place is unresolved is up to the place itself, then to the others. -/
theorem unresolved_iff_of_place {folding : CaseFolding} (hp : p ∈ s.places)
    (named : p.factor.name? = some n) :
    folding.fold n ∈ (s.correlations folding).unresolved ↔
      p.withholds ∨ s.WithholdsElsewhere folding p n := by
  rw [mem_unresolved_iff_withholds]
  constructor
  · rintro ⟨other, ho, known, hk, same⟩
    by_cases itself : other = p
    · subst itself
      left
      by_contra shown
      simp [Place.withheld, shown] at hk
    · exact Or.inr ⟨other, ho, itself, known, hk, same⟩
  · rintro (own | ⟨other, ho, _, known, hk, same⟩)
    · exact ⟨p, hp, n, by simp [Place.withheld, own, named], rfl⟩
    · exact ⟨other, ho, known, hk, same⟩

theorem withholds_of_unsupported {kind : String} {declared : List String}
    (unsupported : p.factor.toNode = .unsupported kind declared)
    (named : p.factor.name? = some n) :
    p.withholds ↔ p.factor.isDeclaring ∧ !p.enclosed := by
  obtain ⟨factor, hiddenBy, enclosed⟩ := p
  cases factor with
  | table name isCall correlation =>
    cases hn : name.getLast? with
    | some table => simp [TableFactor.toNode, hn] at unsupported
    | none => simp [TableFactor.name?, hn] at named
  | derived _ | nested _ _ | other _ _ => simp [Place.withholds, TableFactor.isTable]

theorem baseTable_of_call (call : p.factor.isCall) :
    p.baseTable? = none ↔ p.hiddenBy.isSome ∨ p.factor.isMarkedCall := by
  obtain ⟨factor, hiddenBy, enclosed⟩ := p
  cases factor with
  | table name isCall correlation =>
    cases name with
    | nil => simp [TableFactor.isCall, TableFactor.isMarkedCall] at call
    | cons first rest => cases hiddenBy <;> simp [Place.baseTable?, TableFactor.isMarkedCall]
  | derived _ | nested _ _ => simp [TableFactor.isCall, TableFactor.isMarkedCall] at call
  | other kind correlation =>
    simp only [TableFactor.isCall] at call
    simp [Place.baseTable?, call]

theorem kind_of_call (call : p.factor.isCall)
    (unread : p.hiddenBy.isSome ∨ p.factor.isMarkedCall) : ∃ kind, p.kind? = some kind := by
  obtain ⟨factor, hiddenBy, enclosed⟩ := p
  cases hiddenBy with
  | some around => exact ⟨around, rfl⟩
  | none =>
    cases factor with
    | table _ _ _ => simp [TableFactor.isMarkedCall] at unread
    | derived _ | nested _ _ => simp [TableFactor.isCall, TableFactor.isMarkedCall] at call
    | other kind _ => exact ⟨kind.description, rfl⟩

end Sql

namespace Resolver
open Sql
variable {dialect : Dialect} {resource : Resource} {s : Sql.Select} {p : Place} {n : String}

/-- The columns of a name belong to the default table if the name is withheld. -/
theorem tableOf_of_place (h : resource.Selects dialect s) (hp : p ∈ s.places)
    (named : p.factor.name? = some n) {column qualifier : String}
    (qualified : s.qualifierOf? dialect.caseFolding column = some qualifier)
    (same : dialect.caseFolding.fold qualifier = dialect.caseFolding.fold n) :
    (p.withholds ∨ s.WithholdsElsewhere dialect.caseFolding p n →
      (ofResource dialect resource).tableOf column = resource.table) ∧
    (¬ (p.withholds ∨ s.WithholdsElsewhere dialect.caseFolding p n) →
      (ofResource dialect resource).tableOf column = s.standsFor dialect.caseFolding n) := by
  rw [← unresolved_iff_of_place hp named, tableOf_of_selects h, qualified]
  simp only [same, alias_of_places]
  exact ⟨fun withheld => if_pos withheld, fun shown => if_neg shown⟩

/-- **An unsupported construct falls back by its alias exactly when the alias is collected.** The
alias is collected from queries, joins, TABLE(e) and UNNEST, unless a join with an alias is around
them; any other construct depends on a second place that declares the same name. What is not
collected stands for a table: one that has this name, or else the name itself. -/
theorem unsupported_alias_falls_back_iff (h : resource.Selects dialect s) (hp : p ∈ s.places)
    {kind : String} {declared : List String}
    (unsupported : p.factor.toNode = .unsupported kind declared)
    (named : p.factor.name? = some n) :
    let withheld := (p.factor.isDeclaring ∧ !p.enclosed) ∨
      s.WithholdsElsewhere dialect.caseFolding p n
    (dialect.caseFolding.fold n ∈ (s.correlations dialect.caseFolding).unresolved ↔ withheld) ∧
    ∀ column qualifier, s.qualifierOf? dialect.caseFolding column = some qualifier →
      dialect.caseFolding.fold qualifier = dialect.caseFolding.fold n →
      (withheld → (ofResource dialect resource).tableOf column = resource.table) ∧
      (¬ withheld →
        (ofResource dialect resource).tableOf column = s.standsFor dialect.caseFolding n) := by
  intro withheld
  simp only [withheld, ← withholds_of_unsupported unsupported named]
  refine ⟨unresolved_iff_of_place hp named, ?_⟩
  intro column qualifier qualified same
  exact tableOf_of_place h hp named qualified same

/-- A query and a call, neither of which is looked into. -/
def lateralCall : Resource where
  name := "lateral"
  query := "SELECT d.x, g.y FROM (SELECT 1) d, LATERAL f(1) g"
  table := "film"

def lateralCallSelect : Sql.Select where
  projection := [.unnamed (.column ["d", "x"]), .unnamed (.column ["g", "y"])]
  sources := [.single (.derived (some "d")), .single (.other .lateralCall (some "g"))]

/-- The alias of the query falls back, that of the call becomes a table's name. -/
theorem tableOf_lateralCall :
    lateralCall.Selects .oracle lateralCallSelect ∧
      (ofResource .oracle lateralCall).tableOf "x" = "film" ∧
      (ofResource .oracle lateralCall).tableOf "y" = "G" := by
  have selects : lateralCall.Selects .oracle lateralCallSelect :=
    ⟨_, by decide +kernel, .select⟩
  have query := unsupported_alias_falls_back_iff selects
    (p := ⟨.derived (some "d"), none, false⟩) (by decide) rfl rfl
  have call := unsupported_alias_falls_back_iff selects
    (p := ⟨.other .lateralCall (some "g"), none, false⟩) (by decide) rfl rfl
  have shown : ¬ ((TableFactor.other .lateralCall (some "g")).isDeclaring ∧ !false ∨
      lateralCallSelect.WithholdsElsewhere Dialect.oracle.caseFolding
        ⟨.other .lateralCall (some "g"), none, false⟩ "g") := by decide +kernel
  refine ⟨selects, (query.2 "x" "d" (by decide +kernel) rfl).1 (Or.inl (by decide)), ?_⟩
  rw [(call.2 "y" "g" (by decide +kernel) rfl).2 shown]
  decide +kernel

/-- **A call is taken for a table unless a join hides it or a keyword marks it.** Then it enters
the aliases under its function's name and nothing is reported. Otherwise it enters none and is
reported, by itself or by what hides it. Its columns belong to the default table if its name is
withheld, there or elsewhere, and else to what the name stands for. -/
theorem call_attribution (h : resource.Selects dialect s) (hp : p ∈ s.places)
    (call : p.factor.isCall) :
    (ofResource dialect resource).aliases = NameMap.ofEntries
      ((s.places.filterMap Place.baseTable?).map (·.entry dialect.caseFolding)) ∧
    (p.baseTable? = none ↔ p.hiddenBy.isSome ∨ p.factor.isMarkedCall) ∧
    (p.baseTable? = none ↔ ∃ kind, p.kind? = some kind ∧
      (Correlations.unsupportedFrom kind).withContext resource.name ∈
        (ofResource dialect resource).diagnostics) ∧
    ∀ n, p.factor.name? = some n →
      ∀ column qualifier, s.qualifierOf? dialect.caseFolding column = some qualifier →
        dialect.caseFolding.fold qualifier = dialect.caseFolding.fold n →
        (p.withholds ∨ s.WithholdsElsewhere dialect.caseFolding p n →
          (ofResource dialect resource).tableOf column = resource.table) ∧
        (¬ (p.withholds ∨ s.WithholdsElsewhere dialect.caseFolding p n) →
          (ofResource dialect resource).tableOf column =
            s.standsFor dialect.caseFolding n) := by
  refine ⟨?_, baseTable_of_call call, ?_, ?_⟩
  · rw [ofResource_of_selects h, ← baseTables_of_places]
    exact Correlations.aliases_ofNodes dialect.caseFolding s.shape.sources
  · constructor
    · intro enters
      obtain ⟨kind, hk⟩ := kind_of_call call ((baseTable_of_call call).mp enters)
      exact ⟨kind, hk, unsupported_reported h (reported_of_place hp hk)⟩
    · rintro ⟨kind, hk, _⟩
      exact baseTable_of_kind hk
  · intro n named column qualifier qualified same
    exact tableOf_of_place h hp named qualified same

/-- Two functions with their arguments, of which a join hides the second. -/
def series : Resource where
  name := "series"
  query := "SELECT g.x, h.y FROM generate_series(1, 10) g, t CROSS JOIN f(2) h"
  table := "film"

def seriesSelect : Sql.Select where
  projection := [.unnamed (.column ["g", "x"]), .unnamed (.column ["h", "y"])]
  sources := [.single (.table ["generate_series"] true (some "g")),
    .join (.single (.table ["t"] false none)) .cross (.table ["f"] true (some "h"))]

/-- The function in sight is written to as a table. -/
theorem tableOf_series :
    series.Selects .oracle seriesSelect ∧
      (ofResource .oracle series).aliases["G"]? = some "GENERATE_SERIES" ∧
      (ofResource .oracle series).tableOf "x" = "GENERATE_SERIES" ∧
      (ofResource .oracle series).tableOf "y" = "film" := by
  have selects : series.Selects .oracle seriesSelect := ⟨_, by decide +kernel, .select⟩
  obtain ⟨aliases, -, -, shown⟩ := call_attribution selects
    (p := ⟨.table ["generate_series"] true (some "g"), none, false⟩) (by decide) rfl
  obtain ⟨-, -, -, hidden⟩ := call_attribution selects
    (p := ⟨.table ["f"] true (some "h"), some "cross join", false⟩) (by decide) rfl
  refine ⟨selects, ?_, ?_, ?_⟩
  · rw [aliases]
    decide +kernel
  · rw [(shown "g" rfl "x" "g" (by decide +kernel) rfl).2 (by decide +kernel)]
    decide +kernel
  · exact (hidden "h" rfl "y" "h" (by decide +kernel) rfl).1 (Or.inl (by decide))

end Resolver

end ColumnOrigin
