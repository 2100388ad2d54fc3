import ColumnOrigin.Dialect.Basic
import ColumnOrigin.Proofs.Sequence.Reading

/-!
# Which defaults name a sequence

A default names a sequence by a call, `nextval('name'…`, or with a dot, `[owner.]name.nextval`.
`IsCall` and `IsDotted` give the two forms as texts put together from pieces. What is detected is
exactly what has such a form, under the name that it has there, and no text has both forms or two
names (`named_defaults`).
-/

namespace ColumnOrigin.SequenceStyle

open Text (isBlank)

/-- The text is `nextval('name'` and then anything, with white space between the pieces. -/
inductive IsCall (text name : List Char) : Prop
  | intro (lead word gap inner rest : List Char) (leads : AllBlank lead)
      (spells : Spells nextval word) (blank : AllBlank gap) (blankInner : AllBlank inner)
      (nonempty : name ≠ []) (unquoted : '\'' ∉ name)
      (is : text = lead ++ word ++ gap ++ '(' :: inner ++ '\'' :: name ++ '\'' :: rest)

/-- The text is `[owner.]name.nextval`, with white space around it. -/
inductive IsDotted (text name : List Char) : Prop
  | bare (lead own word trail : List Char) (leads : AllBlank lead) (named : NameText name own)
      (spells : Spells nextval word) (trails : AllBlank trail)
      (is : text = lead ++ own ++ '.' :: word ++ trail)
  | owned (lead owner ownerText own word trail : List Char) (leads : AllBlank lead)
      (owns : NameText owner ownerText) (named : NameText name own)
      (spells : Spells nextval word) (trails : AllBlank trail)
      (is : text = lead ++ ownerText ++ '.' :: own ++ '.' :: word ++ trail)

variable {text name : List Char}

/-! ## Calls -/

/-- What is taken up to a quote is a name if it is not empty and the quote is there. -/
theorem upToQuote_iff :
    ((∃ rest, afterChar? '\'' (text.dropWhile (· ≠ '\'')) = some rest) ∧
      (if text.takeWhile (· ≠ '\'') = [] then none else some (text.takeWhile (· ≠ '\''))) =
        some name) ↔
      name ≠ [] ∧ '\'' ∉ name ∧ ∃ rest, text = name ++ '\'' :: rest := by
  simp only [afterChar?_eq_some_iff, ite_eq_iff, reduceCtorEq, and_false, false_or,
    Option.some.injEq]
  constructor
  · rintro ⟨⟨rest, left⟩, nonempty, rfl⟩
    refine ⟨nonempty, ?_, rest, ?_⟩
    · intro quote
      simpa using List.mem_takeWhile_imp quote
    · rw [← left, List.takeWhile_append_dropWhile]
  · rintro ⟨nonempty, unquoted, rest, rfl⟩
    have chars : ∀ c ∈ name, decide (c ≠ '\'') = true := by
      intro c member
      rw [decide_eq_true_iff]
      rintro rfl
      exact unquoted member
    rw [List.takeWhile_append_of_pos chars, List.dropWhile_append_of_pos chars]
    simp [nonempty]

theorem callName?_eq_some_iff : callName? text = some name ↔ IsCall text name := by
  have paren : isBlank '(' = false := by decide
  have quote : isBlank '\'' = false := by decide
  simp only [callName?, Option.bind_eq_bind, Option.bind_eq_some_iff, nextval_skipBlank_iff,
    afterChar?_skipBlank_iff paren, afterChar?_skipBlank_iff quote]
  constructor
  · rintro ⟨_, ⟨lead, word, leads, spells, rfl⟩, _, ⟨gap, blank, rfl⟩, _, ⟨inner, blankInner, rfl⟩,
      rest, closes, named⟩
    obtain ⟨nonempty, unquoted, rest, rfl⟩ := upToQuote_iff.mp ⟨⟨rest, closes⟩, named⟩
    exact ⟨lead, word, gap, inner, rest, leads, spells, blank, blankInner, nonempty, unquoted,
      by simp⟩
  · rintro ⟨lead, word, gap, inner, rest, leads, spells, blank, blankInner, nonempty, unquoted, is⟩
    obtain ⟨⟨rest', closes⟩, named⟩ := upToQuote_iff.mpr ⟨nonempty, unquoted, rest, rfl⟩
    exact ⟨_, ⟨lead, word, leads, spells, by simpa using is⟩, _, ⟨gap, blank, rfl⟩, _,
      ⟨inner, blankInner, rfl⟩, rest', closes, named⟩

/-! ## Names with a dot -/

theorem dot_not_mem_of_isNextval (last : isNextval text = true) : '.' ∉ text := by
  obtain ⟨word, trail, spells, trails, rfl⟩ := isNextval_iff.mp last
  rw [List.mem_append, not_or]
  exact ⟨spells.not_mem (by decide), trails.not_mem (by decide)⟩

theorem dottedName?_sound (read : dottedName? text = some name) : IsDotted text name := by
  simp only [dottedName?, Option.bind_eq_bind, Option.bind_eq_some_iff, Prod.exists] at read
  obtain ⟨first, left, read, rest, dot, found⟩ := read
  obtain ⟨lead, own, leads, named, rfl⟩ := name?_dot_skipBlank_iff.mp ⟨left, read, dot⟩
  split at found
  case isTrue last =>
    obtain rfl := Option.some.inj found
    obtain ⟨word, trail, spells, trails, rfl⟩ := isNextval_iff.mp last
    exact .bare lead own word trail leads named spells trails (by simp)
  case isFalse =>
    simp only [Option.bind_eq_some_iff, Prod.exists] at found
    obtain ⟨second, left', read', rest', dot', found⟩ := found
    obtain ⟨own', named', rfl⟩ := name?_dot_iff.mp ⟨left', read', dot'⟩
    split at found
    case isTrue last =>
      obtain rfl := Option.some.inj found
      obtain ⟨word, trail, spells, trails, rfl⟩ := isNextval_iff.mp last
      exact .owned lead first own own' word trail leads named named' spells trails (by simp)
    case isFalse => cases found

theorem dottedName?_of_isDotted (dotted : IsDotted text name) : dottedName? text = some name := by
  simp only [dottedName?, Option.bind_eq_bind, Option.bind_eq_some_iff, Prod.exists]
  cases dotted with
  | bare lead own word trail leads named spells trails is =>
    have last : isNextval (word ++ trail) = true :=
      isNextval_iff.mpr ⟨word, trail, spells, trails, rfl⟩
    obtain ⟨left, read, dot⟩ := name?_dot_skipBlank_iff.mpr
      ⟨lead, own, leads, named, show text = lead ++ (own ++ '.' :: (word ++ trail)) by simp [is]⟩
    exact ⟨name, left, read, _, dot, if_pos last⟩
  | owned lead owner ownerText own word trail leads owns named spells trails is =>
    have last : isNextval (word ++ trail) = true :=
      isNextval_iff.mpr ⟨word, trail, spells, trails, rfl⟩
    -- After the owner there is one more dot, so what follows is not `nextval` yet.
    have more : isNextval (own ++ '.' :: (word ++ trail)) ≠ true :=
      fun last => dot_not_mem_of_isNextval last (by simp)
    obtain ⟨left, read, dot⟩ := name?_dot_skipBlank_iff.mpr
      ⟨lead, ownerText, leads, owns,
        show text = lead ++ (ownerText ++ '.' :: (own ++ '.' :: (word ++ trail))) by simp [is]⟩
    obtain ⟨left', read', dot'⟩ := name?_dot_iff.mpr ⟨own, named, rfl⟩
    refine ⟨owner, left, read, _, dot, ?_⟩
    simp only [if_neg more, Option.bind_eq_some_iff, Prod.exists]
    exact ⟨name, left', read', _, dot', if_pos last⟩

theorem dottedName?_eq_some_iff : dottedName? text = some name ↔ IsDotted text name :=
  ⟨dottedName?_sound, dottedName?_of_isDotted⟩

/-! ## One form and one name -/

theorem IsCall.name_unique {other : List Char} (call : IsCall text name)
    (call' : IsCall text other) : name = other :=
  Option.some.inj ((callName?_eq_some_iff.mpr call).symm.trans (callName?_eq_some_iff.mpr call'))

theorem IsDotted.name_unique {other : List Char} (dotted : IsDotted text name)
    (dotted' : IsDotted text other) : name = other :=
  Option.some.inj
    ((dottedName?_eq_some_iff.mpr dotted).symm.trans (dottedName?_eq_some_iff.mpr dotted'))

/-- A call has a parenthesis, and a name with a dot has none. -/
theorem IsCall.not_isDotted {other : List Char} (call : IsCall text name) :
    ¬ IsDotted text other := by
  have paren : '(' ∈ text := by
    obtain ⟨lead, word, gap, inner, rest, -, -, -, -, -, -, rfl⟩ := call
    simp
  have blank : isBlank '(' = false := by decide
  have letter : asciiLower '(' ∉ nextval := by decide
  have nameChar : isNameChar '(' = false := by decide +kernel
  have quote : '(' ≠ '"' := by decide
  intro dotted
  cases dotted with
  | bare lead own word trail leads named spells trails is =>
    simp [is, leads.not_mem blank, named.not_mem nameChar quote, spells.not_mem letter,
      trails.not_mem blank] at paren
  | owned lead owner ownerText own word trail leads owns named spells trails is =>
    simp [is, leads.not_mem blank, owns.not_mem nameChar quote, named.not_mem nameChar quote,
      spells.not_mem letter, trails.not_mem blank] at paren

theorem callName?_of_isDotted (dotted : IsDotted text name) : callName? text = none := by
  rw [Option.eq_none_iff_forall_ne_some]
  intro other read
  exact (callName?_eq_some_iff.mp read).not_isDotted dotted

/-- So it does not matter which form is tried first. -/
theorem callName?_orElse_comm (text : List Char) :
    (callName? text <|> dottedName? text) = (dottedName? text <|> callName? text) := by
  cases dotted : dottedName? text with
  | none => simp
  | some name => simp [callName?_of_isDotted (dottedName?_eq_some_iff.mp dotted)]

theorem callName?_orElse_eq_some_iff :
    (callName? text <|> dottedName? text) = some name ↔ IsCall text name ∨ IsDotted text name := by
  rw [Option.orElse_eq_orElse, Option.orElse_eq_or, Option.or_eq_some_iff, callName?_eq_some_iff,
    dottedName?_eq_some_iff]
  constructor
  · rintro (call | ⟨-, dotted⟩)
    · exact .inl call
    · exact .inr dotted
  · rintro (call | dotted)
    · exact .inl call
    · exact .inr ⟨callName?_of_isDotted dotted, dotted⟩

/-! ## What is detected -/

theorem detect_nextvalCall_eq_some_iff (text : String) (found : SequenceDefault) :
    nextvalCall.detect text = some found ↔
      ∃ name : String, found = .named name ∧ IsCall text.toList name.toList := by
  simp only [detect, Option.map_eq_some_iff, callName?_eq_some_iff]
  constructor
  · rintro ⟨name, call, rfl⟩
    exact ⟨String.ofList name, rfl, by rwa [String.toList_ofList]⟩
  · rintro ⟨name, rfl, call⟩
    exact ⟨name.toList, call, by rw [String.ofList_toList]⟩

theorem detect_oracleNextval_eq_some_iff (text : String) (found : SequenceDefault) :
    oracleNextval.detect text = some found ↔
      ∃ name : String, found = .named name ∧
        (IsCall text.toList name.toList ∨ IsDotted text.toList name.toList) := by
  simp only [detect, Option.map_eq_some_iff, callName?_orElse_eq_some_iff]
  constructor
  · rintro ⟨name, formed, rfl⟩
    exact ⟨String.ofList name, rfl, by rwa [String.toList_ofList]⟩
  · rintro ⟨name, rfl, formed⟩
    exact ⟨name.toList, formed, by rw [String.ofList_toList]⟩

/-- **What names a sequence is exactly what has one of the two forms.** A database with the call
style knows calls, and one with the style of Oracle also names with a dot; all other texts name
nothing. A text has one name in a form and one form, so the order in which the forms are tried does
not matter. -/
theorem named_defaults (text : String) :
    (∀ dialect : Dialect, dialect.sequenceStyle = .nextvalCall → ∀ found,
      dialect.detectSequence text = some found ↔
        ∃ name : String, found = .named name ∧ IsCall text.toList name.toList) ∧
    (∀ dialect : Dialect, dialect.sequenceStyle = .oracleNextval → ∀ found,
      dialect.detectSequence text = some found ↔
        ∃ name : String, found = .named name ∧
          (IsCall text.toList name.toList ∨ IsDotted text.toList name.toList)) ∧
    (∀ name other, IsCall text.toList name → IsCall text.toList other → name = other) ∧
    (∀ name other, IsDotted text.toList name → IsDotted text.toList other → name = other) ∧
    (∀ name other, IsCall text.toList name → ¬ IsDotted text.toList other) ∧
    (callName? text.toList <|> dottedName? text.toList) =
      (dottedName? text.toList <|> callName? text.toList) := by
  refine ⟨?_, ?_, ?_, ?_, ?_, callName?_orElse_comm text.toList⟩
  · intro dialect style found
    rw [Dialect.detectSequence, style]
    exact detect_nextvalCall_eq_some_iff text found
  · intro dialect style found
    rw [Dialect.detectSequence, style]
    exact detect_oracleNextval_eq_some_iff text found
  · intro name other call call'
    exact call.name_unique call'
  · intro name other dotted dotted'
    exact dotted.name_unique dotted'
  · intro name other call
    exact call.not_isDotted

/-- A sequence that is itself called `nextval`, with its owner. -/
def nextvalOfOwner : String := " \"A\".nextval\".NEXTVAL\n"

theorem isDotted_nextvalOfOwner : IsDotted nextvalOfOwner.toList "nextval".toList := by
  refine .owned [' '] "A".toList "\"A\"".toList "nextval\"".toList "NEXTVAL".toList ['\n']
    ?_ ⟨['"'], ['"'], .inr rfl, .inr rfl, ?_, ?_⟩ ⟨[], ['"'], .inl rfl, .inr rfl, ?_, ?_⟩ ?_ ?_ ?_
  all_goals decide +kernel

/-- For Oracle the name before the last dot counts, and the other two see no call. -/
theorem named_defaults_nextvalOfOwner :
    Dialect.oracle.detectSequence nextvalOfOwner = some (.named "nextval") ∧
    (∀ name, IsDotted nextvalOfOwner.toList name → name = "nextval".toList) ∧
    Dialect.postgres.detectSequence nextvalOfOwner = none ∧
    Dialect.ansi.detectSequence nextvalOfOwner = none := by
  obtain ⟨calls, dots, -, unique, apart, -⟩ := named_defaults nextvalOfOwner
  have nothing (dialect : Dialect) (style : dialect.sequenceStyle = .nextvalCall) :
      dialect.detectSequence nextvalOfOwner = none := by
    rw [Option.eq_none_iff_forall_ne_some]
    intro found detected
    obtain ⟨name, -, call⟩ := (calls dialect style found).mp detected
    exact apart _ _ call isDotted_nextvalOfOwner
  refine ⟨?_, ?_, nothing .postgres rfl, nothing .ansi rfl⟩
  · exact (dots .oracle rfl _).mpr ⟨"nextval", rfl, .inr isDotted_nextvalOfOwner⟩
  · intro name dotted
    exact unique _ _ dotted isDotted_nextvalOfOwner

end ColumnOrigin.SequenceStyle
