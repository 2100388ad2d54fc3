import ColumnOrigin.Dialect.Basic
import ColumnOrigin.Proofs.Sequence.Reading
import ColumnOrigin.Proofs.Text.Letters

/-!
# The word `auto_increment` in a text

The search goes through the text and only remembers whether a word character has just passed. It
finds the word exactly if the word stands somewhere in the text by itself
(`hasAutoIncrement_iff`). The text may as well be cut into its words first
(`hasWord_iff_mem_words`), which are then looked at one by one: none of them hides another.
-/

namespace ColumnOrigin.SequenceStyle

open Text (isWordChar)

/-- The word stands in the text, in any ASCII case, with no word character next to it. -/
inductive HasWord (word text : List Char) : Prop
  | intro (before spelled after : List Char) (spells : Spells word spelled)
      (opens : ∀ c, before.getLast? = some c → isWordChar c = false)
      (closes : ∀ c, after.head? = some c → isWordChar c = false)
      (is : text = before ++ spelled ++ after)

variable {inWord : Bool} {before after text word : List Char}

theorem endsHere_iff : endsHere after = true ↔ ∀ c, after.head? = some c → isWordChar c = false := by
  cases after <;> simp [endsHere]

/-- Whether a word character comes right before what follows `before`. -/
def endsInWord (inWord : Bool) (before : List Char) : Bool :=
  (before.getLast?.map isWordChar).getD inWord

theorem endsInWord_cons (c : Char) (before : List Char) :
    endsInWord inWord (c :: before) = endsInWord (isWordChar c) before := by
  simp only [endsInWord, List.getLast?_cons]
  cases before.getLast? <;> rfl

theorem endsInWord_iff :
    endsInWord false before = false ↔ ∀ c, before.getLast? = some c → isWordChar c = false := by
  rw [endsInWord]
  cases before.getLast? <;> simp

theorem here_iff :
    ((after? autoIncrementWord text).map endsHere).getD false = true ↔
      ∃ spelled after, Spells autoIncrementWord spelled ∧ endsHere after = true ∧
        text = spelled ++ after := by
  constructor
  · intro here
    obtain ⟨after, read, ends⟩ : ∃ after, after? autoIncrementWord text = some after ∧
        endsHere after = true := by
      cases read : after? autoIncrementWord text with
      | none => simp [read] at here
      | some after => exact ⟨after, rfl, by simpa [read] using here⟩
    obtain ⟨spelled, spells, split⟩ := after?_eq_some_iff.mp read
    exact ⟨spelled, after, spells, ends, split⟩
  · rintro ⟨spelled, after, spells, ends, split⟩
    simp [after?_eq_some_iff.mpr ⟨spelled, spells, split⟩, ends]

/-- The search from any place on. -/
theorem hasAutoIncrement_iff_endsInWord (inWord : Bool) (text : List Char) :
    hasAutoIncrement inWord text = true ↔
      ∃ before spelled after, Spells autoIncrementWord spelled ∧
        endsInWord inWord before = false ∧ endsHere after = true ∧
        text = before ++ (spelled ++ after) := by
  induction text generalizing inWord with
  | nil =>
    refine ⟨nofun, ?_⟩
    rintro ⟨before, spelled, after, spells, -, -, split⟩
    obtain ⟨-, rfl, -⟩ : before = [] ∧ spelled = [] ∧ after = [] := by simpa using split
    exact absurd spells (by decide)
  | cons c text ih =>
    rw [hasAutoIncrement, Bool.or_eq_true, Bool.and_eq_true, here_iff, ih]
    constructor
    · rintro (⟨free, spelled, after, spells, ends, split⟩ |
        ⟨before, spelled, after, spells, opens, ends, rfl⟩)
      · exact ⟨[], spelled, after, spells, by simpa [endsInWord] using free, ends, split⟩
      · exact ⟨c :: before, spelled, after, spells, by rwa [endsInWord_cons], ends, rfl⟩
    · rintro ⟨_ | ⟨d, before⟩, spelled, after, spells, opens, ends, split⟩
      · exact .inl ⟨by simpa [endsInWord] using opens, spelled, after, spells, ends, split⟩
      · obtain ⟨rfl, rfl⟩ := List.cons.inj split
        exact .inr ⟨before, spelled, after, spells, by rwa [endsInWord_cons] at opens, ends, rfl⟩

/-- The search finds the word exactly if it stands in the text by itself. -/
theorem hasAutoIncrement_iff (text : List Char) :
    hasAutoIncrement false text = true ↔ HasWord autoIncrementWord text := by
  rw [hasAutoIncrement_iff_endsInWord]
  constructor
  · rintro ⟨before, spelled, after, spells, opens, ends, rfl⟩
    exact ⟨before, spelled, after, spells, endsInWord_iff.mp opens, endsHere_iff.mp ends, by simp⟩
  · rintro ⟨before, spelled, after, spells, opens, closes, rfl⟩
    exact ⟨before, spelled, after, spells, endsInWord_iff.mpr opens, endsHere_iff.mpr closes,
      by simp⟩

instance (text : List Char) : Decidable (HasWord autoIncrementWord text) :=
  decidable_of_iff _ (hasAutoIncrement_iff text)

theorem detect_autoIncrement_eq_some_iff (text : String) (found : SequenceDefault) :
    autoIncrement.detect text = some found ↔
      found = .anonymous ∧ HasWord autoIncrementWord text.toList := by
  rw [detect, ← hasAutoIncrement_iff]
  split
  case isTrue has => simp [has, eq_comm]
  case isFalse has => simp [has]

/-! ## The words of a text -/

/-- The words of a text are its longest pieces of word characters. Two neighbouring characters that
are none have an empty word between them. -/
def words (text : List Char) : List (List Char) := text.splitOnP fun c => !isWordChar c

theorem words_append_cons {earlier later : List Char} {c : Char} (apart : isWordChar c = false) :
    words (earlier ++ c :: later) = words earlier ++ words later :=
  List.splitOnP_append_cons earlier later (by simp [apart])

theorem words_of_forall (inside : ∀ c ∈ text, isWordChar c = true) : words text = [text] :=
  List.splitOnP_eq_singleton (by simpa using inside)

/-- The text is `before`, the piece and `after`, with no word character next to the piece. -/
structure StandsFree (before piece after text : List Char) : Prop where
  is : text = before ++ piece ++ after
  opens : ∀ c, before.getLast? = some c → isWordChar c = false
  closes : ∀ c, after.head? = some c → isWordChar c = false

theorem hasWord_iff_standsFree :
    HasWord word text ↔
      ∃ spelled, Spells word spelled ∧ ∃ before after, StandsFree before spelled after text := by
  constructor
  · rintro ⟨before, spelled, after, spells, opens, closes, is⟩
    exact ⟨spelled, spells, before, after, is, opens, closes⟩
  · rintro ⟨spelled, spells, before, after, is, opens, closes⟩
    exact ⟨before, spelled, after, spells, opens, closes, is⟩

theorem standsFree_of_mem_words {text : List Char} (member : word ∈ words text) :
    ∃ before after, StandsFree before word after text := by
  -- The first word ends where the first other character stands; the rest is a shorter text.
  cases found : text.find? fun c => !isWordChar c with
  | none =>
    have inside : ∀ c ∈ text, isWordChar c = true := by simpa using List.find?_eq_none.mp found
    rw [words_of_forall inside, List.mem_singleton] at member
    exact ⟨[], [], by simp [member], nofun, nofun⟩
  | some c =>
    obtain ⟨apart, first, rest, rfl, inside⟩ := List.find?_eq_some_iff_append.mp found
    simp only [Bool.not_eq_true', Bool.not_not] at apart inside
    rw [words_append_cons apart, words_of_forall inside, List.mem_append,
      List.mem_singleton] at member
    obtain rfl | member := member
    · exact ⟨[], c :: rest, by simp, nofun, by simpa using apart⟩
    · obtain ⟨before, after, rfl, opens, closes⟩ := standsFree_of_mem_words member
      refine ⟨first ++ c :: before, after, by simp, ?_, closes⟩
      intro d last
      rw [List.getLast?_append, List.getLast?_cons, Option.some_or, Option.some.injEq] at last
      cases ends : before.getLast? with
      | none => simpa [ends, ← last] using apart
      | some e =>
        obtain rfl : e = d := by simpa [ends] using last
        exact opens e ends
termination_by text.length

theorem mem_words_of_standsFree (free : StandsFree before word after text)
    (inside : ∀ c ∈ word, isWordChar c = true) : word ∈ words text := by
  obtain ⟨rfl, opens, closes⟩ := free
  have first : word ∈ words (word ++ after) := by
    cases after with
    | nil => simp [words_of_forall inside]
    | cons c after => simp [words_append_cons (closes c rfl), words_of_forall inside]
  rcases before.eq_nil_or_concat with rfl | ⟨before, c, rfl⟩
  · exact first
  · have apart : isWordChar c = false := opens c (by simp)
    have split : before.concat c ++ word ++ after = before ++ c :: (word ++ after) := by simp
    rw [split, words_append_cons apart]
    exact List.mem_append_right _ first

theorem isWordChar_asciiLower (c : Char) : isWordChar (asciiLower c) = isWordChar c :=
  Text.apply_asciiLower (by decide +kernel) c

theorem isWordChar_of_spells {spelled : List Char} (spells : Spells autoIncrementWord spelled) :
    ∀ c ∈ spelled, isWordChar c = true := by
  intro c member
  have letter : asciiLower c ∈ autoIncrementWord := spells ▸ List.mem_map_of_mem member
  have letters : autoIncrementWord.all isWordChar = true := by decide +kernel
  rw [← isWordChar_asciiLower, List.all_eq_true.mp letters _ letter]

/-- The text has the word by itself exactly if it is one of the words of the text. -/
theorem hasWord_iff_mem_words (text : List Char) :
    HasWord autoIncrementWord text ↔ ∃ word ∈ words text, Spells autoIncrementWord word := by
  rw [hasWord_iff_standsFree]
  constructor
  · rintro ⟨spelled, spells, before, after, free⟩
    exact ⟨spelled, mem_words_of_standsFree free (isWordChar_of_spells spells), spells⟩
  · rintro ⟨word, member, spells⟩
    exact ⟨word, spells, standsFree_of_mem_words member⟩

/-- Two parts of a text with a character between them that is in no word are searched apart. -/
theorem hasWord_append_cons {earlier later : List Char} {c : Char} (apart : isWordChar c = false) :
    HasWord autoIncrementWord (earlier ++ c :: later) ↔
      HasWord autoIncrementWord earlier ∨ HasWord autoIncrementWord later := by
  simp only [hasWord_iff_mem_words, words_append_cons apart, List.mem_append, or_and_right,
    exists_or]

/-- **A column numbers itself if its text has the word by itself.** Where `auto_increment` is what a
default is known by, a text is taken for a sequence, without a name, exactly if it has
`auto_increment` in any ASCII case with no word character next to it, and for nothing otherwise.
That is to say that one of its words is `auto_increment`. What stands before a word, such as
occurrences that have a word character next to them or that touch each other, does not hide it: two
parts of a text that a character of another kind divides are searched apart. -/
theorem auto_increment_by_itself (d : Dialect) (style : d.sequenceStyle = .autoIncrement)
    (text : String) :
    let isFound (part : List Char) := d.detectSequence (String.ofList part) = some .anonymous
    (d.detectSequence text = some .anonymous ↔ HasWord autoIncrementWord text.toList) ∧
    (d.detectSequence text = none ↔ ¬ HasWord autoIncrementWord text.toList) ∧
    (d.detectSequence text = some .anonymous ↔
      ∃ word ∈ words text.toList, Spells autoIncrementWord word) ∧
    ∀ earlier later c, isWordChar c = false → text.toList = earlier ++ c :: later →
      (d.detectSequence text = some .anonymous ↔ isFound earlier ∨ isFound later) := by
  intro isFound
  have detected (text : String) (sequence : SequenceDefault) :
      d.detectSequence text = some sequence ↔
        sequence = .anonymous ∧ HasWord autoIncrementWord text.toList := by
    rw [Dialect.detectSequence, style, detect_autoIncrement_eq_some_iff]
  have found_iff (text : String) : d.detectSequence text = some .anonymous ↔
      HasWord autoIncrementWord text.toList := by
    simp [detected]
  refine ⟨found_iff text, ?_, ?_, ?_⟩
  · simp [Option.eq_none_iff_forall_ne_some, detected]
  · rw [found_iff, hasWord_iff_mem_words]
  · intro earlier later c apart split
    simp only [isFound, found_iff, String.toList_ofList]
    rw [split, hasWord_append_cons apart]

/-- Two occurrences that touch each other make one word, which is another. They do not hide the one
at the end of the text. -/
theorem auto_increment_after_touching :
    Dialect.mySql.detectSequence "auto_incrementAUTO_INCREMENT" = none ∧
    Dialect.mySql.detectSequence "auto_incrementAUTO_INCREMENT Auto_Increment" =
      some .anonymous := by
  obtain ⟨-, absent, -⟩ := auto_increment_by_itself .mySql rfl "auto_incrementAUTO_INCREMENT"
  obtain ⟨-, -, found, -⟩ :=
    auto_increment_by_itself .mySql rfl "auto_incrementAUTO_INCREMENT Auto_Increment"
  rw [hasWord_iff_mem_words] at absent
  exact ⟨absent.mpr (by decide +kernel), found.mpr (by decide +kernel)⟩

end ColumnOrigin.SequenceStyle
