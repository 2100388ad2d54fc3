import ColumnOrigin.Proofs.Query.Projection
import Mathlib.Data.Finset.Card
import Mathlib.Data.Finset.Insert

/-!
# The origins of a projection

Each projected column writes over what an earlier one of its name left: an origin if it has a
qualifier, and otherwise the absence of one. So the last column of a name decides, and a diagnostic
is left for every column that writes over another (`Origins.origin_characterisation`).
-/

namespace ColumnOrigin

/-- The repeats of a list are what it has beside its distinct names. -/
theorem length_repeats (names : List String) :
    (repeats names).length + names.toFinset.card = names.length := by
  induction names using List.reverseRecOn with
  | nil => rfl
  | append_singleton names name ih =>
    have more : (names ++ [name]).toFinset = insert name names.toFinset := by
      ext other
      simp
    rw [repeats_concat, more, List.length_append, List.length_append, List.length_singleton, ← ih]
    by_cases again : name ∈ names
    · rw [if_pos again, Finset.insert_eq_of_mem (List.mem_toFinset.mpr again),
        List.length_singleton]
      omega
    · rw [if_neg again, Finset.card_insert_of_notMem (List.mem_toFinset.not.mpr again),
        List.length_nil]
      omega

namespace Origins
variable (folding : CaseFolding)

/-- `c` is the last of the columns that have the name `k`. -/
def IsLastNamed (columns : List ProjectedColumn) (k : String) (c : ProjectedColumn) : Prop :=
  IsLast (fun c => folding.fold c.name = k) columns c

theorem origin_eq_some_iff (columns : List ProjectedColumn) (k v : String) :
    (ofColumns folding columns).origins[k]? = some v ↔
      ∃ c qualifier, IsLastNamed folding columns k c ∧ c.qualifier = some qualifier ∧
        folding.fold qualifier = v := by
  rw [origins_ofColumns, Option.map_eq_some_iff]
  simp only [Option.bind_eq_some_iff, findRev?_eq_some_iff]
  constructor
  · rintro ⟨qualifier, ⟨c, last, qualified⟩, same⟩
    exact ⟨c, qualifier, last, qualified, same⟩
  · rintro ⟨c, qualifier, last, qualified, same⟩
    exact ⟨qualifier, ⟨c, last, qualified⟩, same⟩

theorem mem_origins_iff (columns : List ProjectedColumn) (k : String) :
    k ∈ (ofColumns folding columns).origins ↔
      ∃ c, IsLastNamed folding columns k c ∧ c.qualifier.isSome := by
  rw [Std.ExtTreeMap.mem_iff_isSome_getElem?, Option.isSome_iff_exists]
  simp only [origin_eq_some_iff, Option.isSome_iff_exists]
  constructor
  · rintro ⟨v, c, qualifier, last, qualified, -⟩
    exact ⟨c, last, qualifier, qualified⟩
  · rintro ⟨c, last, qualifier, qualified⟩
    exact ⟨_, c, qualifier, last, qualified, rfl⟩

/-- **The last column of a name decides its origin.** A name has an origin exactly if the last
column of that name has a qualifier, which is then the origin. Each column whose name has been
projected before leaves one diagnostic, in the order of the columns, so there are as many as there
are columns beyond the distinct names. -/
theorem origin_characterisation (columns : List ProjectedColumn) :
    let found := ofColumns folding columns
    let names := columns.map fun c => folding.fold c.name
    (∀ k, k ∈ found.origins ↔
      ∃ c, IsLastNamed folding columns k c ∧ c.qualifier.isSome) ∧
    (∀ k v, found.origins[k]? = some v ↔
      ∃ c qualifier, IsLastNamed folding columns k c ∧ c.qualifier = some qualifier ∧
        folding.fold qualifier = v) ∧
    found.diagnostics = (repeats names).map (fun name =>
      { code := .sqlAmbiguousProjection
        severity := .warn
        message := "Column '" ++ name ++
          "' is projected more than once; the last occurrence is used"
        subject := some name }) ∧
    found.diagnostics.length + names.toFinset.card = columns.length := by
  intro found names
  have diagnostics : found.diagnostics = (repeats names).map ambiguousProjection :=
    diagnostics_ofColumns folding columns
  refine ⟨mem_origins_iff folding columns, origin_eq_some_iff folding columns, diagnostics, ?_⟩
  rw [diagnostics, List.length_map, length_repeats, List.length_map]

/-- A column without a qualifier takes an origin away, and a later one brings another. -/
example :
    let columns (qualifiers : List (Option String)) :=
      qualifiers.map fun qualifier => (⟨"id", qualifier⟩ : ProjectedColumn)
    let found (qualifiers : List (Option String)) := ofColumns .upper (columns qualifiers)
    (found [some "a", Option.none]).origins.toList = [] ∧
      (found [some "a", Option.none, some "b"]).origins.toList = [("ID", "B")] := by
  decide +kernel

end Origins

end ColumnOrigin
