import ColumnOrigin.Proofs.Json.Atoms
import Mathlib.Data.List.TakeWhile

/-!
# Values in JSON text

Every value that is written in one place reads back from its text, in either layout
(`parse?_print`). The text of a value is followed by other text where the value is part of a larger
one, so what is proved by induction is about a value with anything after it (`ReadsBack`).
-/

namespace ColumnOrigin

/-- No part of the value is spread over several places. -/
inductive Value.InOnePlace : Value → Prop
  | null : InOnePlace .null
  | bool (b : Bool) : InOnePlace (.bool b)
  | natural (n : Nat) : InOnePlace (.natural n)
  | scalar : InOnePlace .scalar
  | string (s : String) : InOnePlace (.string s)
  | list {items : List Value} (all : ∀ v ∈ items, InOnePlace v) : InOnePlace (.list items)
  | record {fields : List (String × Value)} (all : ∀ f ∈ fields, InOnePlace f.2) :
      InOnePlace (.record fields)

namespace Json
variable {layout : Layout}

/-! ## Where texts begin -/

theorem skipSpace_append {blanks : List Char} (blank : ∀ d ∈ blanks, isSpace d = true) {c : Char}
    (shown : isSpace c = false) (rest : List Char) :
    skipSpace (blanks ++ c :: rest) = c :: rest := by
  rw [skipSpace, List.dropWhile_append_of_pos blank]
  simp [shown]

theorem isSpace_of_mem_lineBreak (depth : Nat) :
    ∀ d ∈ layout.lineBreak depth, isSpace d = true := by
  cases layout with
  | compact => simp [Layout.lineBreak]
  | pretty =>
    intro d hd
    rcases List.mem_cons.mp hd with rfl | indent
    · rfl
    · rw [List.eq_of_mem_replicate indent]
      rfl

theorem ends_of_blank {blanks : List Char} (blank : ∀ d ∈ blanks, isSpace d = true) :
    Ends blanks := by
  cases blanks with
  | nil => exact ends_nil
  | cons d blanks => simp [Ends, blank d List.mem_cons_self]

theorem ends_lineBreak (depth : Nat) {bracket : Char} (closing : bracket = ']' ∨ bracket = '}')
    (rest : List Char) : Ends (layout.lineBreak depth ++ bracket :: rest) := by
  cases layout with
  | compact => simpa [Layout.lineBreak, Ends] using Or.inr (closing.imp id Or.inl)
  | pretty => simp [Layout.lineBreak, Ends, isSpace]

theorem ends_renderItems (depth : Nat) (items : List Value) (rest : List Char) :
    Ends (renderItems layout depth items ++ rest) := by
  cases items with
  | nil =>
    rw [renderItems, List.append_assoc]
    exact ends_lineBreak depth (Or.inl rfl) rest
  | cons v items => simp [renderItems, Ends]

theorem ends_renderFields (depth : Nat) (fields : List (String × Value)) (rest : List Char) :
    Ends (renderFields layout depth fields ++ rest) := by
  cases fields with
  | nil =>
    rw [renderFields, List.append_assoc]
    exact ends_lineBreak depth (Or.inr rfl) rest
  | cons f fields => simp [renderFields, Ends]

/-- No value begins with white space or with a closing bracket. -/
theorem render_eq_cons (layout : Layout) (depth : Nat) (v : Value) :
    ∃ c cs, render layout depth v = c :: cs ∧ isSpace c = false ∧ c ≠ ']' := by
  cases v with
  | null | scalar | string s => exact ⟨_, _, rfl, by decide, by decide⟩
  | bool b => cases b <;> exact ⟨_, _, rfl, by decide, by decide⟩
  | natural n =>
    obtain ⟨c, cs, written, digit⟩ := toDigits_eq_cons n
    refine ⟨c, cs, written, ?_, ?_⟩
    · by_contra space
      simp only [isSpace, Bool.not_eq_false, Bool.or_eq_true, decide_eq_true_eq] at space
      rcases space with ((rfl | rfl) | rfl) | rfl <;> exact absurd digit (by decide)
    · rintro rfl
      exact absurd digit (by decide)
  | list items => cases items <;> exact ⟨_, _, rfl, by decide, by decide⟩
  | record fields | «section» fields =>
    cases fields <;> exact ⟨_, _, rfl, by decide, by decide⟩

theorem skipSpace_render {blanks : List Char} (blank : ∀ d ∈ blanks, isSpace d = true)
    (layout : Layout) (depth : Nat) (v : Value) (rest : List Char) :
    skipSpace (blanks ++ (render layout depth v ++ rest)) = render layout depth v ++ rest := by
  obtain ⟨c, cs, written, shown, -⟩ := render_eq_cons layout depth v
  rw [written, List.cons_append]
  exact skipSpace_append blank shown _

theorem colon_eq_cons (layout : Layout) :
    ∃ blanks, layout.colon = ':' :: blanks ∧ ∀ d ∈ blanks, isSpace d = true := by
  cases layout with
  | compact => exact ⟨[], rfl, List.forall_mem_nil _⟩
  | pretty => exact ⟨[' '], rfl, List.forall_mem_singleton.mpr rfl⟩

/-! ## One step of reading -/

section Steps
variable {fuel : Nat} {text gap rest : List Char} {v : Value}

theorem items?_last (read : value? fuel text = some (v, gap))
    (closed : skipSpace gap = ']' :: rest) : items? (fuel + 1) text = some ([v], rest) := by
  simp [items?, read, closed]

theorem items?_more (read : value? fuel text = some (v, gap)) {more : List Char}
    (separated : skipSpace gap = ',' :: more) {items : List Value}
    (others : items? fuel (skipSpace more) = some (items, rest)) :
    items? (fuel + 1) text = some (v :: items, rest) := by
  simp [items?, read, separated, others]

variable {name : String} {named valued : List Char}

theorem fields?_last (called : string? text = some (name, named))
    (colon : skipSpace named = ':' :: valued)
    (read : value? fuel (skipSpace valued) = some (v, gap)) (closed : skipSpace gap = '}' :: rest) :
    fields? (fuel + 1) text = some ([(name, v)], rest) := by
  simp [fields?, called, colon, read, closed]

theorem fields?_more (called : string? text = some (name, named))
    (colon : skipSpace named = ':' :: valued)
    (read : value? fuel (skipSpace valued) = some (v, gap)) {more : List Char}
    (separated : skipSpace gap = ',' :: more) {fields : List (String × Value)}
    (others : fields? fuel (skipSpace more) = some (fields, rest)) :
    fields? (fuel + 1) text = some ((name, v) :: fields, rest) := by
  simp [fields?, called, colon, read, separated, others]

theorem value?_of_digit {c : Char} (digit : Text.isDigit c = true) (text : List Char) :
    value? (fuel + 1) (c :: text) = number? (c :: text) := by
  rw [value?]
  all_goals
    intro _ same
    cases same
    exact absurd digit (by decide)

theorem value?_list {w : Value} {items : List Value} {depth : Nat}
    (read : items? fuel (render layout depth w ++ text) = some (items, rest)) {blanks : List Char}
    (blank : ∀ d ∈ blanks, isSpace d = true) :
    value? (fuel + 1) ('[' :: (blanks ++ (render layout depth w ++ text))) =
      some (.list items, rest) := by
  obtain ⟨c, cs, written, -, opening⟩ := render_eq_cons layout depth w
  have skipped := skipSpace_render blank layout depth w text
  rw [written, List.cons_append] at skipped read ⊢
  simp [value?, skipped, opening, read]

theorem value?_record {fields : List (String × Value)}
    (read : fields? fuel (quoted name ++ text) = some (fields, rest)) {blanks : List Char}
    (blank : ∀ d ∈ blanks, isSpace d = true) :
    value? (fuel + 1) ('{' :: (blanks ++ (quoted name ++ text))) = some (.record fields, rest) := by
  obtain ⟨body, written⟩ : ∃ body, quoted name = '"' :: body := ⟨_, rfl⟩
  have skipped := skipSpace_append blank (c := '"') rfl (body ++ text)
  rw [written, List.cons_append] at read ⊢
  simp [value?, skipped, read]

end Steps

/-! ## Values -/

/-- The value is read back wherever its text ends. Reading takes at most two steps for each
character. -/
def ReadsBack (layout : Layout) (v : Value) : Prop :=
  ∀ depth fuel rest, Ends rest → 2 * (render layout depth v).length ≤ fuel →
    value? fuel (render layout depth v ++ rest) = some (v, rest)

/-- No text is empty, so there is a first step. -/
theorem readsBack_of_step {v : Value}
    (read : ∀ depth fuel rest, Ends rest → 2 * (render layout depth v).length ≤ fuel + 1 →
      value? (fuel + 1) (render layout depth v ++ rest) = some (v, rest)) :
    ReadsBack layout v := by
  intro depth fuel rest ends enough
  obtain ⟨c, cs, written, -⟩ := render_eq_cons layout depth v
  cases fuel with
  | zero => simp [written] at enough
  | succ fuel => exact read depth fuel rest ends enough

theorem items?_render {v : Value} {items : List Value}
    (all : ∀ w ∈ v :: items, ReadsBack layout w) (depth : Nat) (rest : List Char) {fuel : Nat}
    (enough : 2 * ((render layout (depth + 1) v).length +
      (renderItems layout depth items).length) ≤ fuel) :
    items? (fuel + 1) (render layout (depth + 1) v ++ (renderItems layout depth items ++ rest)) =
      some (v :: items, rest) := by
  have first := all v List.mem_cons_self (depth + 1) fuel (renderItems layout depth items ++ rest)
    (ends_renderItems depth items rest) (by omega)
  induction items generalizing v fuel with
  | nil =>
    refine items?_last first ?_
    rw [renderItems, List.append_assoc]
    exact skipSpace_append (isSpace_of_mem_lineBreak depth) rfl rest
  | cons w items ih =>
    simp only [renderItems, List.length_cons, List.length_append] at enough
    simp only [renderItems, List.cons_append, List.append_assoc] at first ⊢
    refine items?_more first rfl ?_
    rw [skipSpace_render (isSpace_of_mem_lineBreak (depth + 1))]
    obtain _ | fuel := fuel
    · omega
    · have others : ∀ u ∈ w :: items, ReadsBack layout u := fun u hu =>
        all u (List.mem_cons_of_mem v hu)
      refine ih others (by omega) ?_
      exact others w List.mem_cons_self _ _ _ (ends_renderItems depth items rest) (by omega)

theorem fields?_render {name : String} {v : Value} {fields : List (String × Value)}
    (all : ∀ f ∈ (name, v) :: fields, ReadsBack layout f.2) (depth : Nat) (rest : List Char)
    {fuel : Nat} (enough : 2 * ((render layout (depth + 1) v).length +
      (renderFields layout depth fields).length) ≤ fuel) :
    fields? (fuel + 1) (quoted name ++ (layout.colon ++
        (render layout (depth + 1) v ++ (renderFields layout depth fields ++ rest)))) =
      some ((name, v) :: fields, rest) := by
  obtain ⟨blanks, colon, blank⟩ := colon_eq_cons layout
  have value : ReadsBack layout v := all (name, v) List.mem_cons_self
  have first := value (depth + 1) fuel (renderFields layout depth fields ++ rest)
    (ends_renderFields depth fields rest) (by omega)
  rw [← skipSpace_render blank] at first
  rw [colon, List.cons_append]
  induction fields generalizing name v fuel with
  | nil =>
    refine fields?_last (string?_quoted name _) rfl first ?_
    rw [renderFields, List.append_assoc]
    exact skipSpace_append (isSpace_of_mem_lineBreak depth) rfl rest
  | cons f fields ih =>
    obtain ⟨other, w⟩ := f
    simp only [renderFields, List.length_cons, List.length_append] at enough
    simp only [renderFields, List.cons_append, List.append_assoc] at first ⊢
    refine fields?_more (string?_quoted name _) rfl first rfl ?_
    rw [colon, List.cons_append]
    have quote (text : List Char) :
        skipSpace (layout.lineBreak (depth + 1) ++ (quoted other ++ text)) = quoted other ++ text :=
      skipSpace_append (isSpace_of_mem_lineBreak (depth + 1)) rfl _
    rw [quote]
    obtain _ | fuel := fuel
    · omega
    · have others : ∀ g ∈ (other, w) :: fields, ReadsBack layout g.2 := fun g hg =>
        all g (List.mem_cons_of_mem _ hg)
      have value' : ReadsBack layout w := others (other, w) List.mem_cons_self
      refine ih others (by omega) value' ?_
      rw [skipSpace_render blank]
      exact value' _ _ _ (ends_renderFields depth fields rest) (by omega)

theorem readsBack_natural (n : Nat) : ReadsBack layout (.natural n) := by
  refine readsBack_of_step fun depth fuel rest ends _ => ?_
  have read := number?_toDigits n ends
  obtain ⟨c, cs, written, digit⟩ := toDigits_eq_cons n
  rw [render, written, List.cons_append, value?_of_digit digit]
  rwa [written] at read

theorem readsBack_scalar : ReadsBack layout .scalar := by
  refine readsBack_of_step fun depth fuel rest ends _ => ?_
  exact (value?_of_digit rfl _).trans (number?_scalar ends)

theorem readsBack_string (s : String) : ReadsBack layout (.string s) := by
  refine readsBack_of_step fun depth fuel rest _ _ => ?_
  have read := string?_quoted s rest
  obtain ⟨body, written⟩ : ∃ body, quoted s = '"' :: body := ⟨_, rfl⟩
  rw [written, List.cons_append] at read
  rw [render, written, List.cons_append]
  simp [value?, read]

theorem readsBack_list {items : List Value} (all : ∀ v ∈ items, ReadsBack layout v) :
    ReadsBack layout (.list items) := by
  refine readsBack_of_step fun depth fuel rest _ enough => ?_
  cases items with
  | nil => rfl
  | cons v items =>
    simp only [render, List.length_append, List.length_cons] at enough
    cases fuel with
    | zero => omega
    | succ fuel =>
      simp only [render, List.cons_append, List.append_assoc]
      exact value?_list (items?_render all depth rest (by omega))
        (isSpace_of_mem_lineBreak (depth + 1))

theorem readsBack_record {fields : List (String × Value)}
    (all : ∀ f ∈ fields, ReadsBack layout f.2) : ReadsBack layout (.record fields) := by
  refine readsBack_of_step fun depth fuel rest _ enough => ?_
  cases fields with
  | nil => rfl
  | cons f fields =>
    simp only [render, List.length_append, List.length_cons] at enough
    cases fuel with
    | zero => omega
    | succ fuel =>
      simp only [render, List.cons_append, List.append_assoc]
      exact value?_record (fields?_render all depth rest (by omega))
        (isSpace_of_mem_lineBreak (depth + 1))

theorem readsBack (layout : Layout) {v : Value} (whole : v.InOnePlace) : ReadsBack layout v := by
  induction whole with
  | null => exact readsBack_of_step fun _ _ _ _ _ => rfl
  | bool b => cases b <;> exact readsBack_of_step fun _ _ _ _ _ => rfl
  | natural n => exact readsBack_natural n
  | scalar => exact readsBack_scalar
  | string s => exact readsBack_string s
  | list _ ih => exact readsBack_list ih
  | record _ ih => exact readsBack_record ih

/-- A value reads back from its text with white space behind it. -/
theorem parse?_print_append (layout : Layout) {v : Value} (whole : v.InOnePlace)
    {after : List Char} (blank : ∀ d ∈ after, isSpace d = true) :
    parse? (print layout v ++ String.ofList after) = some v := by
  have unspaced : ∀ d ∈ ([] : List Char), isSpace d = true := List.forall_mem_nil _
  have skipped := skipSpace_render unspaced layout 0 v after
  have read := readsBack layout whole 0 (2 * (render layout 0 v ++ after).length + 1) after
    (ends_of_blank blank) (by rw [List.length_append]; omega)
  have nothing : skipSpace after = [] := List.dropWhile_eq_nil_iff.mpr blank
  rw [List.nil_append] at skipped
  simp only [parse?, print, String.toList_append, String.toList_ofList, skipped, read, nothing,
    ↓reduceIte]

/-- **A value reads back from its text**, in one line or laid out. -/
theorem parse?_print (layout : Layout) {v : Value} (whole : v.InOnePlace) :
    parse? (print layout v) = some v := by
  have read := parse?_print_append layout whole (List.forall_mem_nil _)
  rwa [String.ofList_nil, String.append_empty] at read

end Json
end ColumnOrigin
