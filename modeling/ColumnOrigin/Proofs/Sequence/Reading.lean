import ColumnOrigin.Dialect.Sequence
import Mathlib.Data.List.TakeDrop
import Mathlib.Data.List.TakeWhile

/-!
# How the text of a default is read

A reader takes a piece off the front of a text and hands on the rest. The lemmas here say what the
pieces are without the readers: a word in any ASCII case (`after?_eq_some_iff`), one character
(`afterChar?_eq_some_iff`), and a name, in quotes or not, before a dot (`name?_sound`,
`name?_append`). White space before a piece is `skipBlank_eq_some_iff` for all of them, since none
of them starts with white space.
-/

namespace ColumnOrigin.SequenceStyle

open Text (isBlank blankRanges inRanges_iff)

variable {text rest : List Char}

/-- The text is the word, in any ASCII case. -/
def Spells (word text : List Char) : Prop := text.map asciiLower = word

instance (word text : List Char) : Decidable (Spells word text) :=
  inferInstanceAs (Decidable (_ = _))

def AllBlank (text : List Char) : Prop := ∀ c ∈ text, isBlank c = true

instance (text : List Char) : Decidable (AllBlank text) :=
  decidable_of_iff (text.all isBlank = true) List.all_eq_true

/-- Nothing, or one double quote. -/
def OptionalQuote (text : List Char) : Prop := text = [] ∨ text = ['"']

/-- A name, as it may stand without quotes. -/
structure IsName (name : List Char) : Prop where
  nonempty : name ≠ []
  chars : ∀ c ∈ name, isNameChar c = true

instance (name : List Char) : Decidable (IsName name) :=
  decidable_of_iff (name.isEmpty = false ∧ name.all isNameChar = true) (by
    rw [List.isEmpty_eq_false_iff, List.all_eq_true]
    exact ⟨fun named => ⟨named.1, named.2⟩, fun named => ⟨named.nonempty, named.chars⟩⟩)

/-- The name as a default gives it: with or without a double quote on either side. -/
inductive NameText (name text : List Char) : Prop
  | intro (before after : List Char) (opens : OptionalQuote before) (closes : OptionalQuote after)
      (named : IsName name) (is : text = before ++ name ++ after)

theorem NameText.isName {name : List Char} (own : NameText name text) : IsName name := by
  obtain ⟨-, -, -, -, named, -⟩ := own
  exact named

theorem IsName.not_mem {name : List Char} {c : Char} (named : IsName name)
    (mark : isNameChar c = false) : c ∉ name := by
  intro member
  rw [named.chars c member] at mark
  cases mark

/-! ## White space -/

/-- What holds of each character in the table of white space holds of all white space. -/
theorem of_isBlank {p : Char → Bool}
    (table : ∀ r ∈ blankRanges, ∀ k < r.2 + 1 - r.1, p (Char.ofNat (r.1 + k)) = true) {c : Char}
    (blank : isBlank c = true) : p c = true := by
  obtain ⟨r, member, above, below⟩ := inRanges_iff.mp blank
  have listed := table r member (c.toNat - r.1) (by omega)
  rwa [Nat.add_sub_cancel' above, Char.ofNat_toNat] at listed

theorem isNameChar_of_isBlank {c : Char} (blank : isBlank c = true) : isNameChar c = false := by
  have apart := of_isBlank (p := fun c => !isNameChar c) (by decide +kernel) blank
  simpa using apart

theorem asciiLower_of_isBlank {c : Char} (blank : isBlank c = true) : asciiLower c = c := by
  have caseless := of_isBlank (p := fun c => asciiLower c == c) (by decide +kernel) blank
  simpa using caseless

theorem exists_skipBlank (text : List Char) :
    ∃ lead, AllBlank lead ∧ text = lead ++ skipBlank text :=
  ⟨text.takeWhile isBlank, fun _ => List.mem_takeWhile_imp,
    List.takeWhile_append_dropWhile.symm⟩

theorem skipBlank_append {lead : List Char} (blank : AllBlank lead)
    (stops : ∀ c, rest.head? = some c → isBlank c = false) : skipBlank (lead ++ rest) = rest := by
  rw [skipBlank, List.dropWhile_append_of_pos blank]
  cases rest with
  | nil => rfl
  | cons c rest => simp [stops c rfl]

/-- White space before a piece is passed over, where no piece starts with white space. -/
theorem skipBlank_eq_some_iff {β : Type} {read : List Char → Option β}
    (starts : ∀ c rest, isBlank c = true → read (c :: rest) = none) {b : β} :
    read (skipBlank text) = some b ↔
      ∃ lead rest, AllBlank lead ∧ text = lead ++ rest ∧ read rest = some b := by
  constructor
  · intro found
    obtain ⟨lead, blank, split⟩ := exists_skipBlank text
    exact ⟨lead, _, blank, split, found⟩
  · rintro ⟨lead, rest, blank, rfl, found⟩
    have stops : ∀ c, rest.head? = some c → isBlank c = false := by
      intro c first
      cases isBlank_c : isBlank c with
      | false => rfl
      | true =>
        obtain ⟨tail, rfl⟩ := List.head?_eq_some_iff.mp first
        rw [starts c tail isBlank_c] at found
        cases found
    rw [skipBlank_append blank stops, found]

/-! ## What the pieces do not contain -/

theorem AllBlank.not_mem {c : Char} (blank : AllBlank text) (mark : isBlank c = false) :
    c ∉ text := by
  intro member
  rw [blank c member] at mark
  cases mark

theorem Spells.not_mem {word : List Char} {c : Char} (spells : Spells word text)
    (other : asciiLower c ∉ word) : c ∉ text :=
  fun member => other (spells ▸ List.mem_map_of_mem member)

theorem NameText.not_mem {name : List Char} {c : Char} (own : NameText name text)
    (mark : isNameChar c = false) (other : c ≠ '"') : c ∉ text := by
  obtain ⟨before, after, opens, closes, named, rfl⟩ := own
  have apart {quote : List Char} (optional : OptionalQuote quote) : c ∉ quote := by
    obtain rfl | rfl := optional <;> simp [other]
  simp [named.not_mem mark, apart opens, apart closes]

/-! ## Words and single characters -/

theorem exists_spells_cons_iff {c w : Char} {word : List Char} :
    (∃ spelled, Spells (w :: word) spelled ∧ c :: text = spelled ++ rest) ↔
      asciiLower c = w ∧ ∃ spelled, Spells word spelled ∧ text = spelled ++ rest := by
  constructor
  · rintro ⟨_ | ⟨d, spelled⟩, spells, split⟩
    · cases spells
    · simp only [Spells, List.map_cons, List.cons.injEq, List.cons_append] at spells split
      exact ⟨split.1 ▸ spells.1, spelled, spells.2, split.2⟩
  · rintro ⟨same, spelled, spells, rfl⟩
    have spells' : Spells (w :: word) (c :: spelled) := by
      rw [Spells, List.map_cons, same, spells]
    exact ⟨c :: spelled, spells', rfl⟩

theorem after?_eq_some_iff {word : List Char} :
    after? word text = some rest ↔ ∃ spelled, Spells word spelled ∧ text = spelled ++ rest := by
  induction word generalizing text with
  | nil => simp [after?, Spells]
  | cons w word ih =>
    cases text with
    | nil => simp [after?, Spells]
    | cons c text =>
      rw [after?, exists_spells_cons_iff]
      split
      case isTrue same => simp only [ih, same, true_and]
      case isFalse other => simp only [other, false_and, reduceCtorEq]

theorem afterChar?_eq_some_iff {c : Char} : afterChar? c text = some rest ↔ text = c :: rest := by
  cases text with
  | nil => simp [afterChar?]
  | cons d text =>
    rw [afterChar?, List.cons.injEq]
    split
    case isTrue same => simp [same]
    case isFalse other => simp [other]

theorem after?_of_isBlank {c w : Char} {word : List Char} (letter : isBlank w = false)
    (blank : isBlank c = true) : after? (w :: word) (c :: text) = none := by
  rw [after?, asciiLower_of_isBlank blank, if_neg]
  rintro rfl
  rw [letter] at blank
  cases blank

theorem afterChar?_of_isBlank {c d : Char} (mark : isBlank d = false) (blank : isBlank c = true) :
    afterChar? d (c :: text) = none := by
  rw [afterChar?, if_neg]
  rintro rfl
  rw [mark] at blank
  cases blank

theorem nextval_eq : nextval = ['n', 'e', 'x', 't', 'v', 'a', 'l'] := by
  decide

theorem nextval_skipBlank_iff :
    after? nextval (skipBlank text) = some rest ↔
      ∃ lead word, AllBlank lead ∧ Spells nextval word ∧ text = lead ++ (word ++ rest) := by
  have starts (c : Char) (rest : List Char) (blank : isBlank c = true) :
      after? nextval (c :: rest) = none := by
    rw [nextval_eq]
    exact after?_of_isBlank (by decide) blank
  rw [skipBlank_eq_some_iff starts]
  constructor
  · rintro ⟨lead, _, blank, rfl, read⟩
    obtain ⟨word, spells, rfl⟩ := after?_eq_some_iff.mp read
    exact ⟨lead, word, blank, spells, rfl⟩
  · rintro ⟨lead, word, blank, spells, rfl⟩
    exact ⟨lead, _, blank, rfl, after?_eq_some_iff.mpr ⟨word, spells, rfl⟩⟩

theorem afterChar?_skipBlank_iff {c : Char} (mark : isBlank c = false) :
    afterChar? c (skipBlank text) = some rest ↔ ∃ gap, AllBlank gap ∧ text = gap ++ c :: rest := by
  rw [skipBlank_eq_some_iff fun d rest => afterChar?_of_isBlank mark]
  constructor
  · rintro ⟨gap, _, blank, rfl, read⟩
    exact ⟨gap, blank, by rw [afterChar?_eq_some_iff.mp read]⟩
  · rintro ⟨gap, blank, rfl⟩
    exact ⟨gap, _, blank, rfl, afterChar?_eq_some_iff.mpr rfl⟩

theorem isNextval_iff :
    isNextval text = true ↔
      ∃ word trail, Spells nextval word ∧ AllBlank trail ∧ text = word ++ trail := by
  simp only [isNextval]
  cases read : after? nextval text with
  | none =>
    refine ⟨nofun, ?_⟩
    rintro ⟨word, trail, spells, -, split⟩
    rw [after?_eq_some_iff.mpr ⟨word, spells, split⟩] at read
    cases read
  | some rest =>
    simp only [List.all_eq_true]
    constructor
    · intro blank
      obtain ⟨word, spells, split⟩ := after?_eq_some_iff.mp read
      exact ⟨word, rest, spells, blank, split⟩
    · rintro ⟨word, trail, spells, blank, split⟩
      rw [after?_eq_some_iff.mpr ⟨word, spells, split⟩, Option.some.injEq] at read
      exact read ▸ blank

/-! ## Names -/

theorem dropQuote_of_head {c : Char} (other : c ≠ '"') : dropQuote (c :: rest) = c :: rest := by
  rw [dropQuote]
  rintro tail ⟨⟩
  exact other rfl

theorem dropQuote_append {quote : List Char} (optional : OptionalQuote quote)
    (stops : rest.head? ≠ some '"') : dropQuote (quote ++ rest) = rest := by
  obtain rfl | rfl := optional
  · cases rest with
    | nil => rfl
    | cons c rest => exact dropQuote_of_head (by simpa using stops)
  · rfl

theorem exists_dropQuote (text : List Char) :
    ∃ quote, OptionalQuote quote ∧ text = quote ++ dropQuote text := by
  cases text with
  | nil => exact ⟨[], .inl rfl, rfl⟩
  | cons c rest =>
    by_cases same : c = '"'
    · subst same
      exact ⟨['"'], .inr rfl, rfl⟩
    · exact ⟨[], .inl rfl, (dropQuote_of_head same).symm⟩

theorem name?_eq (text : List Char) :
    name? text =
      if (dropQuote text).takeWhile isNameChar = [] then none
      else some ((dropQuote text).takeWhile isNameChar,
        dropQuote ((dropQuote text).dropWhile isNameChar)) := by
  rw [name?, List.span_eq_takeWhile_dropWhile]
  cases (dropQuote text).takeWhile isNameChar <;> rfl

theorem name?_of_isBlank {c : Char} (blank : isBlank c = true) : name? (c :: text) = none := by
  have other : c ≠ '"' := by
    rintro rfl
    revert blank
    decide
  simp [name?_eq, dropQuote_of_head other, isNameChar_of_isBlank blank]

theorem name?_sound {name : List Char} (read : name? text = some (name, rest)) :
    ∃ own, NameText name own ∧ text = own ++ rest := by
  rw [name?_eq, ite_eq_iff] at read
  obtain ⟨-, ⟨⟩⟩ | ⟨nonempty, found⟩ := read
  obtain ⟨rfl, rfl⟩ := Prod.mk.inj (Option.some.inj found)
  obtain ⟨before, opens, split⟩ := exists_dropQuote text
  obtain ⟨after, closes, left⟩ := exists_dropQuote ((dropQuote text).dropWhile isNameChar)
  have named : IsName ((dropQuote text).takeWhile isNameChar) :=
    ⟨nonempty, fun _ => List.mem_takeWhile_imp⟩
  refine ⟨_, ⟨before, after, opens, closes, named, rfl⟩, ?_⟩
  rw [List.append_assoc, ← left, List.append_assoc, List.takeWhile_append_dropWhile, ← split]

/-- A name before a dot is read to its end. -/
theorem name?_append {name own : List Char} (owns : NameText name own) (rest : List Char) :
    name? (own ++ '.' :: rest) = some (name, '.' :: rest) := by
  obtain ⟨before, after, opens, closes, named, rfl⟩ := owns
  have quote : isNameChar '"' = false := by decide +kernel
  have dot : isNameChar '.' = false := by decide +kernel
  have unquoted : dropQuote (before ++ (name ++ (after ++ '.' :: rest))) =
      name ++ (after ++ '.' :: rest) := by
    refine dropQuote_append opens ?_
    obtain ⟨c, cs, rfl⟩ := List.exists_cons_of_ne_nil named.nonempty
    rintro ⟨⟩
    exact named.not_mem quote List.mem_cons_self
  have stops : (after ++ '.' :: rest).takeWhile isNameChar = [] ∧
      (after ++ '.' :: rest).dropWhile isNameChar = after ++ '.' :: rest := by
    obtain rfl | rfl := closes <;> simp [quote, dot]
  have run : (name ++ (after ++ '.' :: rest)).takeWhile isNameChar = name := by
    rw [List.takeWhile_append_of_pos named.chars, stops.1, List.append_nil]
  have left : (name ++ (after ++ '.' :: rest)).dropWhile isNameChar = after ++ '.' :: rest := by
    rw [List.dropWhile_append_of_pos named.chars, stops.2]
  rw [List.append_assoc, List.append_assoc, name?_eq, unquoted, run, left,
    if_neg named.nonempty,
    dropQuote_append closes (by simp)]

theorem name?_dot_iff {name : List Char} :
    (∃ left, name? text = some (name, left) ∧ afterChar? '.' left = some rest) ↔
      ∃ own, NameText name own ∧ text = own ++ '.' :: rest := by
  constructor
  · rintro ⟨left, read, dot⟩
    obtain ⟨own, named, rfl⟩ := name?_sound read
    exact ⟨own, named, by rw [afterChar?_eq_some_iff.mp dot]⟩
  · rintro ⟨own, named, rfl⟩
    exact ⟨_, name?_append named rest, afterChar?_eq_some_iff.mpr rfl⟩

theorem name?_dot_skipBlank_iff {name : List Char} :
    (∃ left, name? (skipBlank text) = some (name, left) ∧ afterChar? '.' left = some rest) ↔
      ∃ lead own, AllBlank lead ∧ NameText name own ∧ text = lead ++ (own ++ '.' :: rest) := by
  simp only [skipBlank_eq_some_iff fun c rest => name?_of_isBlank]
  constructor
  · rintro ⟨left, ⟨lead, after, blank, rfl, read⟩, dot⟩
    obtain ⟨own, named, rfl⟩ := name?_dot_iff.mp ⟨left, read, dot⟩
    exact ⟨lead, own, blank, named, rfl⟩
  · rintro ⟨lead, own, blank, named, rfl⟩
    obtain ⟨left, read, dot⟩ := name?_dot_iff.mpr ⟨own, named, rfl⟩
    exact ⟨left, ⟨lead, _, blank, rfl, read⟩, dot⟩

end ColumnOrigin.SequenceStyle
