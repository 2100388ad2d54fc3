import ColumnOrigin.Dialect.Folding
import ColumnOrigin.Dialect.Sequence

/-!
# The case of ASCII letters

Texts that differ in the case of ASCII letters alone fold to the same text (`fold_of_alike`). Both
cases of a letter have the same upper and lower case. They are also alike to the final sigma, which
asks of its neighbours only whether they are cased and whether they are case-ignorable.
-/

namespace ColumnOrigin.Text

open SequenceStyle (asciiLower)

/-- The texts differ at most in the case of ASCII letters. -/
def AsciiAlike (s t : String) : Prop := s.toList.map asciiLower = t.toList.map asciiLower

instance (s t : String) : Decidable (AsciiAlike s t) := inferInstanceAs (Decidable (_ = _))

/-- What is the same for both cases of each letter does not see the case of ASCII letters. -/
theorem apply_asciiLower {β : Type} {f : Char → β}
    (letters : ∀ k < 26, f (Char.ofNat ('A'.toNat + k + 32)) = f (Char.ofNat ('A'.toNat + k)))
    (c : Char) : f (asciiLower c) = f c := by
  simp only [asciiLower]
  split
  case isTrue capital =>
    have above : 'A'.toNat ≤ c.toNat := capital.1
    have below : c.toNat ≤ 'A'.toNat + 25 := capital.2
    have back : 'A'.toNat + (c.toNat - 'A'.toNat) = c.toNat := by omega
    have same := letters (c.toNat - 'A'.toNat) (by omega)
    rwa [back, Char.ofNat_toNat] at same
  case isFalse => rfl

theorem upperChar_asciiLower (c : Char) : upperChar (asciiLower c) = upperChar c :=
  apply_asciiLower (by decide +kernel) c

theorem lowerChar_asciiLower (c : Char) : lowerChar (asciiLower c) = lowerChar c :=
  apply_asciiLower (by decide +kernel) c

theorem isCased_asciiLower (c : Char) : isCased (asciiLower c) = isCased c :=
  apply_asciiLower (by decide +kernel) c

theorem isCaseIgnorable_asciiLower (c : Char) :
    isCaseIgnorable (asciiLower c) = isCaseIgnorable c :=
  apply_asciiLower (by decide +kernel) c

theorem asciiLower_eq_sigma_iff (c : Char) : asciiLower c = 'Σ' ↔ c = 'Σ' := by
  have same : decide (asciiLower c = 'Σ') = decide (c = 'Σ') :=
    apply_asciiLower (f := fun c => decide (c = 'Σ')) (by decide +kernel) c
  simpa using same

theorem meetsCased_map_asciiLower (text : List Char) :
    meetsCased (text.map asciiLower) = meetsCased text := by
  induction text with
  | nil => rfl
  | cons c rest ih =>
    simp only [List.map_cons, meetsCased, isCased_asciiLower, isCaseIgnorable_asciiLower, ih]

theorem lowerBetween_asciiLower (before after : List Char) (c : Char) :
    lowerBetween (before.map asciiLower) (asciiLower c) (after.map asciiLower) =
      lowerBetween before c after := by
  simp only [lowerBetween, endsWord, meetsCased_map_asciiLower, lowerChar_asciiLower]
  exact ite_congr (propext (asciiLower_eq_sigma_iff c)) (fun _ => rfl) fun _ => rfl

theorem lowerAfter_map_asciiLower (before text : List Char) :
    lowerAfter (before.map asciiLower) (text.map asciiLower) = lowerAfter before text := by
  induction text generalizing before with
  | nil => rfl
  | cons c rest ih =>
    rw [List.map_cons, lowerAfter, lowerAfter, lowerBetween_asciiLower, ← ih (c :: before),
      List.map_cons]

theorem upper_of_alike {s t : String} (alike : AsciiAlike s t) : upper s = upper t := by
  have unseen (text : List Char) :
      (text.map asciiLower).flatMap upperChar = text.flatMap upperChar := by
    simp only [List.flatMap_map, upperChar_asciiLower]
  rw [upper, upper, ← unseen, alike, unseen]

theorem lower_of_alike {s t : String} (alike : AsciiAlike s t) : lower s = lower t := by
  rw [lower, lower, ← lowerAfter_map_asciiLower, alike, lowerAfter_map_asciiLower]

end ColumnOrigin.Text

namespace ColumnOrigin.CaseFolding

/-- **Folding does not see the case of ASCII letters**, unless it keeps names as they are. -/
theorem fold_of_alike {folding : CaseFolding} (folds : folding ≠ .preserve) {s t : String}
    (alike : Text.AsciiAlike s t) : folding.fold s = folding.fold t := by
  cases folding with
  | upper => exact Text.upper_of_alike alike
  | lower => exact Text.lower_of_alike alike
  | preserve => exact absurd rfl folds

end ColumnOrigin.CaseFolding
