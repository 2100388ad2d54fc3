import ColumnOrigin.Dialect.Folding
import Mathlib.Data.List.Basic
import Mathlib.Data.Nat.Bitwise

/-!
# Folding twice

No code point that a case table maps to is mapped any further (`upper_apart`, `lower_apart`), so a
folded text is a fixed point: `CaseFolding.fold_fold`. The final sigma makes no exception. The rule
looks at capital sigmas alone, and a text in lower case has none.
-/

namespace ColumnOrigin.Text

/-! ## Sets of code points -/

/-- A set of numbers as the bits of one. Tables are too long to be compared entry by entry, while
two such numbers are compared in one operation. -/
def bits (points : List Nat) : Nat := points.foldr (fun n b => b ||| 1 <<< n) 0

theorem testBit_bits (points : List Nat) (n : Nat) :
    (bits points).testBit n = decide (n ∈ points) := by
  induction points with
  | nil => simp [bits]
  | cons m rest ih =>
    have here : (1 <<< m).testBit n = decide (n = m) := by
      rw [Nat.one_shiftLeft, Nat.testBit_two_pow, decide_eq_decide]
      exact eq_comm
    rw [bits, List.foldr_cons, ← bits, Nat.testBit_or, ih, here, Bool.eq_iff_iff]
    simp [or_comm]

theorem not_mem_of_bits {points others : List Nat} (apart : bits points &&& bits others = 0)
    {n : Nat} (member : n ∈ points) : n ∉ others := by
  intro other
  have both : (bits points &&& bits others).testBit n = true := by
    simp [Nat.testBit_and, testBit_bits, member, other]
  simp [apart] at both

/-! ## What a case table maps, and to what -/

/-- The code points that a run covers. -/
def CaseRun.points (r : CaseRun) : List Nat :=
  ((List.range (r.last + 1 - r.first)).filter fun k => k % r.step == 0).map (r.first + ·)

theorem CaseRun.mem_points {r : CaseRun} {n : Nat} : n ∈ r.points ↔ r.covers n = true := by
  simp only [points, covers, List.mem_map, List.mem_filter, List.mem_range, Bool.and_eq_true,
    decide_eq_true_eq]
  constructor
  · rintro ⟨k, ⟨bound, step⟩, rfl⟩
    refine ⟨⟨by omega, by omega⟩, ?_⟩
    rwa [Nat.add_sub_cancel_left]
  · rintro ⟨⟨above, below⟩, step⟩
    exact ⟨n - r.first, ⟨by omega, step⟩, by omega⟩

section
variable (runs : List CaseRun) (expansions : List (Nat × List Char))

/-- The code points that the table maps. -/
def sources : List Nat := expansions.map (·.1) ++ runs.flatMap (·.points)

/-- The code points that the characters of the table map to. A number that is no character counts
as the character 0. -/
def images : List Nat :=
  0 :: expansions.flatMap (·.2.map Char.toNat) ++ runs.flatMap fun r => r.points.map r.map

variable {runs expansions} {c x : Char}

theorem mapByTable_of_not_source (unmapped : c.toNat ∉ sources runs expansions) :
    mapByTable runs expansions c = [c] := by
  simp only [sources, List.mem_append, List.mem_map, List.mem_flatMap, not_or] at unmapped
  have noExpansion : expansions.lookup c.toNat = none := by
    refine List.lookup_eq_none_iff.mpr fun e he => ?_
    exact bne_iff_ne.mpr fun same => unmapped.1 ⟨e, he, same.symm⟩
  have noRun : runs.find? (·.covers c.toNat) = none :=
    List.find?_eq_none.mpr fun r hr covers =>
      unmapped.2 ⟨r, hr, CaseRun.mem_points.mpr covers⟩
  simp only [mapByTable, noExpansion, noRun]

/-- A character stays, or it is mapped to characters that the table maps to. -/
theorem mapByTable_cases (runs : List CaseRun) (expansions : List (Nat × List Char)) (c : Char) :
    mapByTable runs expansions c = [c] ∨
      ∀ x ∈ mapByTable runs expansions c, x.toNat ∈ images runs expansions := by
  simp only [mapByTable]
  cases expansion : expansions.lookup c.toNat with
  | some image =>
    refine Or.inr fun x hx => ?_
    obtain ⟨front, back, split, -⟩ := List.lookup_eq_some_iff.mp expansion
    have member : (c.toNat, image) ∈ expansions := by simp [split]
    simp only [images, List.cons_append, List.mem_cons, List.mem_append, List.mem_flatMap]
    exact Or.inr (Or.inl ⟨_, member, List.mem_map_of_mem hx⟩)
  | none =>
    cases run : runs.find? (·.covers c.toNat) with
    | none => exact Or.inl rfl
    | some r =>
      refine Or.inr fun x hx => ?_
      obtain rfl := List.mem_singleton.mp hx
      have covered : r.covers c.toNat = true := by simpa using List.find?_some run
      have covers : c.toNat ∈ r.points := CaseRun.mem_points.mpr covered
      simp only [images, List.cons_append, List.mem_cons, List.mem_append, List.mem_flatMap]
      by_cases valid : (r.map c.toNat).isValidChar
      · have image : (Char.ofNat (r.map c.toNat)).toNat = r.map c.toNat := by
          rw [Char.ofNat, dif_pos valid]
          rfl
        rw [image]
        exact Or.inr (Or.inr ⟨r, List.mem_of_find?_eq_some run, List.mem_map_of_mem covers⟩)
      · rw [Char.ofNat, dif_neg valid]
        exact Or.inl rfl

/-- Where nothing that the table maps is mapped to, mapping once is enough. -/
theorem mapByTable_of_mem
    (apart : bits (sources runs expansions) &&& bits (images runs expansions) = 0)
    (hx : x ∈ mapByTable runs expansions c) : mapByTable runs expansions x = [x] := by
  rcases mapByTable_cases runs expansions c with stays | mapped
  · rw [stays, List.mem_singleton] at hx
    rw [hx, stays]
  · exact mapByTable_of_not_source fun source => not_mem_of_bits apart source (mapped x hx)

end

theorem upper_apart :
    bits (sources upperRuns upperExpansions) &&& bits (images upperRuns upperExpansions) = 0 := by
  decide +kernel

theorem lower_apart :
    bits (sources lowerRuns lowerExpansions) &&& bits (images lowerRuns lowerExpansions) = 0 := by
  decide +kernel

/-! ## Texts -/

theorem upper_upper (s : String) : upper (upper s) = upper s := by
  have twice : (s.toList.flatMap upperChar).flatMap upperChar = s.toList.flatMap upperChar := by
    rw [List.flatMap_assoc]
    refine List.flatMap_congr fun c _ => ?_
    calc (upperChar c).flatMap upperChar
        = (upperChar c).flatMap fun x => [x] :=
          List.flatMap_congr fun x hx => mapByTable_of_mem upper_apart hx
      _ = upperChar c := List.flatMap_singleton' _
  simp only [upper, String.toList_ofList, twice]

/-- A lower case sigma stays, at the end of a word and elsewhere. -/
theorem lowerChar_of_mem {before after : List Char} {c x : Char}
    (hx : x ∈ lowerBetween before c after) : lowerChar x = [x] := by
  simp only [lowerBetween] at hx
  split at hx
  · rw [List.mem_singleton] at hx
    split at hx
    · rw [hx]
      decide +kernel
    · rw [hx]
      decide +kernel
  · exact mapByTable_of_mem lower_apart hx

theorem lowerChar_of_mem_lowerAfter {before text : List Char} {x : Char}
    (hx : x ∈ lowerAfter before text) : lowerChar x = [x] := by
  induction text generalizing before with
  | nil => cases hx
  | cons c rest ih =>
    rcases List.mem_append.mp hx with here | later
    · exact lowerChar_of_mem here
    · exact ih later

/-- A text of characters in lower case stays: none of them is a capital sigma. -/
theorem lowerAfter_of_lowered {text : List Char} (lowered : ∀ x ∈ text, lowerChar x = [x])
    (before : List Char) : lowerAfter before text = text := by
  induction text generalizing before with
  | nil => rfl
  | cons c rest ih =>
    obtain ⟨here, later⟩ := List.forall_mem_cons.mp lowered
    -- So the neighbours, and with them `before`, do not matter.
    have notSigma : c ≠ 'Σ' := by
      rintro rfl
      exact absurd here (by decide +kernel)
    rw [lowerAfter, lowerBetween, if_neg notSigma, here, ih later, List.singleton_append]

theorem lower_lower (s : String) : lower (lower s) = lower s := by
  simp only [lower, String.toList_ofList]
  rw [lowerAfter_of_lowered fun _ => lowerChar_of_mem_lowerAfter]

end ColumnOrigin.Text

namespace ColumnOrigin.CaseFolding

/-- **A folded name is folded.** -/
theorem fold_fold (folding : CaseFolding) (name : String) :
    folding.fold (folding.fold name) = folding.fold name := by
  cases folding with
  | upper => exact Text.upper_upper name
  | lower => exact Text.lower_lower name
  | preserve => rfl

/-- A folded name may be longer, and its last sigma may differ from the others. -/
example : CaseFolding.upper.fold "straße" = "STRASSE" ∧
    CaseFolding.lower.fold "ΣΟΦΟΣ" = "σοφος" := by
  decide +kernel

end ColumnOrigin.CaseFolding
