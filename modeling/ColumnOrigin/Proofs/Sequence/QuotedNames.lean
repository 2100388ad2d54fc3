import ColumnOrigin.Proofs.Sequence.Defaults
import ColumnOrigin.Proofs.Text.Letters

/-!
# Defaults with both names in quotes

An identity column has the default `"owner"."name".nextval`. In quotes a name may have any
characters but the quote. The default is detected exactly if both names are made of the characters
that a name may also have without quotes (`detectSequence_identityDefault`).
-/

namespace ColumnOrigin

namespace SequenceStyle

open Text (isBlank)

variable {lead owner name word trail own : List Char}

/-- Before its first quote a text is the same however it is put together. -/
theorem eq_of_append_quote {front back front' back' : List Char} (free : '"' ∉ front)
    (free' : '"' ∉ front') (same : front ++ '"' :: back = front' ++ '"' :: back') :
    front = front' ∧ back = back' := by
  rcases List.append_eq_append_iff.mp same with ⟨more, rfl, split⟩ | ⟨more, rfl, split⟩
  · cases more with
    | nil => exact ⟨(List.append_nil front).symm, (List.cons.inj split).2⟩
    | cons c more =>
      obtain ⟨rfl, -⟩ := List.cons.inj split
      exact absurd (by simp) free'
  · cases more with
    | nil => exact ⟨List.append_nil front', (List.cons.inj split).2.symm⟩
    | cons c more =>
      obtain ⟨rfl, -⟩ := List.cons.inj split
      exact absurd (by simp) free

/-! ## Counting quotes -/

theorem AllBlank.quote_not_mem (blank : AllBlank lead) : '"' ∉ lead :=
  blank.not_mem (by decide)

theorem Spells.quote_not_mem (spells : Spells nextval word) : '"' ∉ word :=
  spells.not_mem (by decide)

theorem IsName.quote_not_mem (named : IsName name) : '"' ∉ name :=
  named.not_mem (by decide +kernel)

/-- A name has at most two quotes, and with two of them it is in quotes. -/
theorem NameText.count_quote (owns : NameText name own) :
    own.count '"' ≤ 2 ∧ (own.count '"' = 2 → own = '"' :: (name ++ ['"'])) := by
  obtain ⟨before, after, opens, closes, named, rfl⟩ := owns
  have none : name.count '"' = 0 := List.count_eq_zero.mpr named.quote_not_mem
  obtain rfl | rfl := opens <;> obtain rfl | rfl := closes <;> simp [none]

/-- The text `"owner"."name".` with something before and after it. -/
def inQuotes (lead owner name rest : List Char) : List Char :=
  lead ++ '"' :: (owner ++ '"' :: '.' :: '"' :: (name ++ '"' :: '.' :: rest))

/-- It can be put together in one way only. -/
theorem inQuotes_inj {lead' owner' name' rest rest' : List Char} (leads : '"' ∉ lead)
    (leads' : '"' ∉ lead') (ownerFree : '"' ∉ owner) (ownerFree' : '"' ∉ owner')
    (nameFree : '"' ∉ name) (nameFree' : '"' ∉ name')
    (same : inQuotes lead owner name rest = inQuotes lead' owner' name' rest') :
    owner = owner' ∧ name = name' := by
  obtain ⟨-, afterLead⟩ := eq_of_append_quote leads leads' same
  obtain ⟨owners, afterOwner⟩ := eq_of_append_quote ownerFree ownerFree' afterLead
  simp only [List.cons.injEq, true_and] at afterOwner
  exact ⟨owners, (eq_of_append_quote nameFree nameFree' afterOwner).1⟩

/-- Two names in quotes before `nextval` are a name with a dot if their characters are those of
names. There are four quotes, so each form of a name with a dot has to be this one. -/
theorem isDotted_inQuotes_iff (leads : AllBlank lead) (spells : Spells nextval word)
    (trails : AllBlank trail) (ownerFree : '"' ∉ owner) (nameFree : '"' ∉ name)
    (found : List Char) :
    IsDotted (inQuotes lead owner name (word ++ trail)) found ↔
      found = name ∧ IsName owner ∧ IsName name := by
  have quotes : (inQuotes lead owner name (word ++ trail)).count '"' = 4 := by
    simp [inQuotes, List.count_eq_zero.mpr, leads.quote_not_mem, ownerFree, nameFree,
      spells.quote_not_mem, trails.quote_not_mem]
  constructor
  · intro dotted
    cases dotted with
    | bare lead' own word' trail' leads' named spells' trails' is =>
      have few : own.count '"' ≤ 2 := named.count_quote.1
      simp [is, List.count_eq_zero.mpr, leads'.quote_not_mem, spells'.quote_not_mem,
        trails'.quote_not_mem] at quotes
      omega
    | owned lead' owner' ownerText own word' trail' leads' owns named spells' trails' is =>
      have few : ownerText.count '"' ≤ 2 := owns.count_quote.1
      have few' : own.count '"' ≤ 2 := named.count_quote.1
      have all : ownerText.count '"' + own.count '"' = 4 := by
        simpa [is, List.count_eq_zero.mpr, leads'.quote_not_mem, spells'.quote_not_mem,
          trails'.quote_not_mem] using quotes
      obtain rfl := owns.count_quote.2 (by omega)
      obtain rfl := named.count_quote.2 (by omega)
      have same : inQuotes lead owner name (word ++ trail) =
          inQuotes lead' owner' found (word' ++ trail') := by
        rw [is]
        simp [inQuotes]
      obtain ⟨rfl, rfl⟩ := inQuotes_inj leads.quote_not_mem leads'.quote_not_mem ownerFree
        owns.isName.quote_not_mem nameFree named.isName.quote_not_mem same
      exact ⟨rfl, owns.isName, named.isName⟩
  · rintro ⟨rfl, isOwner, isName⟩
    exact .owned lead owner ('"' :: (owner ++ ['"'])) ('"' :: (found ++ ['"'])) word trail leads
      ⟨['"'], ['"'], .inr rfl, .inr rfl, isOwner, by simp⟩
      ⟨['"'], ['"'], .inr rfl, .inr rfl, isName, by simp⟩ spells trails (by simp [inQuotes])

theorem not_isCall_inQuotes (leads : AllBlank lead) (rest found : List Char) :
    ¬ IsCall (inQuotes lead owner name rest) found := by
  have quote : isBlank '"' = false := by decide
  rw [← callName?_eq_some_iff, inQuotes, callName?, skipBlank_append leads (by simpa using quote),
    nextval_eq]
  simp [after?, asciiLower]

end SequenceStyle

/-- The default of an identity column, `"owner"."name".nextval`. -/
def identityDefault (lead owner name word trail : String) : String :=
  lead ++ "\"" ++ owner ++ "\".\"" ++ name ++ "\"." ++ word ++ trail

theorem toList_identityDefault (lead owner name word trail : String) :
    (identityDefault lead owner name word trail).toList =
      SequenceStyle.inQuotes lead.toList owner.toList name.toList
        (word.toList ++ trail.toList) := by
  simp [identityDefault, SequenceStyle.inQuotes]

open SequenceStyle in
/-- **An identity default is detected if its names could do without their quotes.** The owner and
the name may have any characters but the quote, `nextval` may be in any ASCII case, and white space
may surround it all. The default is that of the sequence if both names are made of word characters,
`$` and `#`; if any other character is in one of them, nothing is detected. -/
theorem detectSequence_identityDefault {lead owner name word trail : String}
    (leads : Text.isAllBlank lead = true) (trails : Text.isAllBlank trail = true)
    (spells : Text.AsciiAlike word "nextval") (ownerSome : owner ≠ "") (nameSome : name ≠ "")
    (ownerFree : '"' ∉ owner.toList) (nameFree : '"' ∉ name.toList) :
    Dialect.oracle.detectSequence (identityDefault lead owner name word trail) =
      if (owner ++ name).toList.all isNameChar then some (.named name) else none := by
  have leads' : AllBlank lead.toList := List.all_eq_true.mp leads
  have trails' : AllBlank trail.toList := List.all_eq_true.mp trails
  have spells' : Spells nextval word.toList := spells.trans (by decide)
  have names : (owner ++ name).toList.all isNameChar = true ↔
      IsName owner.toList ∧ IsName name.toList := by
    rw [String.toList_append, List.all_eq_true, List.forall_mem_append]
    have nonempty : owner.toList ≠ [] ∧ name.toList ≠ [] := by simp [ownerSome, nameSome]
    exact ⟨fun chars => ⟨⟨nonempty.1, chars.1⟩, nonempty.2, chars.2⟩,
      fun named => ⟨named.1.chars, named.2.chars⟩⟩
  have formed (found : List Char) :=
    isDotted_inQuotes_iff leads' spells' trails' ownerFree nameFree found
  have detected := detect_oracleNextval_eq_some_iff (identityDefault lead owner name word trail)
  simp only [toList_identityDefault, not_isCall_inQuotes leads', formed, false_or,
    ← names] at detected
  split
  case isTrue chars => exact (detected _).mpr ⟨name, rfl, rfl, chars⟩
  case isFalse other =>
    rw [Option.eq_none_iff_forall_ne_some]
    intro found here
    obtain ⟨_, -, -, chars⟩ := (detected found).mp here
    exact other chars

/-- The numbered sequence of an identity column is detected, one with a blank in its name is not. -/
theorem detectSequence_sakila :
    Dialect.oracle.detectSequence (identityDefault " " "SAKILA" "ISEQ$$_74581" "NextVal" "\n") =
      some (.named "ISEQ$$_74581") ∧
    Dialect.oracle.detectSequence (identityDefault "" "SAKILA" "FILM SEQ" "nextval" "") =
      none := by
  constructor
  · rw [detectSequence_identityDefault (by decide) (by decide) (by decide) (by decide) (by decide)
      (by decide) (by decide)]
    decide +kernel
  · rw [detectSequence_identityDefault (by decide) (by decide) (by decide) (by decide) (by decide)
      (by decide) (by decide)]
    decide +kernel

end ColumnOrigin
