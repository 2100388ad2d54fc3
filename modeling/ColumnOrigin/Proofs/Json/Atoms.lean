import ColumnOrigin.Data.Json.Parser
import ColumnOrigin.Data.Json.Printer
import Mathlib.Data.List.TakeDrop

/-!
# Strings and numbers in JSON text

A string is read back from its quoted form, whatever its characters are (`string?_quoted`), and a
natural number from its digits, where nothing follows that would go on with it
(`number?_toDigits`).
-/

namespace ColumnOrigin.Json
open Text (digitValue hexNumber? isDigit isHexDigit ofDigits)

/-! ## Strings -/

theorem isHexDigit_hexDigit : ∀ n < 16, isHexDigit (hexDigit n) = true := by decide

theorem digitValue_hexDigit : ∀ n < 16, digitValue (hexDigit n) = n := by decide

theorem hexNumber?_hexDigits {n : Nat} (small : n < 256) (rest : List Char) :
    hexNumber? 4 ('0' :: '0' :: hexDigit (n / 16) :: hexDigit (n % 16) :: rest) =
      some (n, rest) := by
  have high : n / 16 < 16 := by omega
  have low : n % 16 < 16 := by omega
  have zero : isHexDigit '0' = true ∧ digitValue '0' = 0 := by decide
  have value : ofDigits 16 ['0', '0', hexDigit (n / 16), hexDigit (n % 16)] = n := by
    simp only [ofDigits, List.foldl_cons, List.foldl_nil, zero, digitValue_hexDigit _ high,
      digitValue_hexDigit _ low]
    omega
  simp [hexNumber?, value, isHexDigit_hexDigit _ high, isHexDigit_hexDigit _ low, zero]

theorem escaped?_of_control {c : Char} (control : c.toNat < 32) (rest : List Char) :
    escaped? ('u' :: '0' :: '0' :: hexDigit (c.toNat / 16) :: hexDigit (c.toNat % 16) :: rest) =
      some (c, rest) := by
  have number := hexNumber?_hexDigits (show c.toNat < 256 by omega) rest
  have notLow : isLowSurrogate c.toNat = false := by simp [isLowSurrogate]; omega
  have notHigh : isHighSurrogate c.toNat = false := by simp [isHighSurrogate]; omega
  simp [escaped?, codePoint?, number, notLow, notHigh]

/-- A character stands for itself, or after a backslash stands what is read as the character. -/
theorem escape_cases (c : Char) :
    (escape c = [c] ∧ c ≠ '"' ∧ c ≠ '\\' ∧ ¬ c.toNat < 32) ∨
      ∃ e, escape c = '\\' :: e ∧ ∀ rest, escaped? (e ++ rest) = some (c, rest) := by
  by_cases control : c.toNat < 32
  · right
    by_cases short : c = '\x08' ∨ c = '\x0c' ∨ c = '\n' ∨ c = '\r' ∨ c = '\t'
    · rcases short with rfl | rfl | rfl | rfl | rfl <;> exact ⟨_, rfl, fun _ => rfl⟩
    · have apart : c ≠ '"' ∧ c ≠ '\\' := by
        constructor <;> (rintro rfl; exact absurd control (by decide))
      rw [not_or, not_or, not_or, not_or] at short
      refine ⟨'u' :: '0' :: '0' :: [hexDigit (c.toNat / 16), hexDigit (c.toNat % 16)], ?_,
        escaped?_of_control control⟩
      simp only [escape, apart, short, control, ↓reduceIte]
  · by_cases quote : c = '"'
    · subst quote
      exact Or.inr ⟨_, rfl, fun _ => rfl⟩
    · by_cases backslash : c = '\\'
      · subst backslash
        exact Or.inr ⟨_, rfl, fun _ => rfl⟩
      · have apart (d : Char) (low : d.toNat < 32) : c ≠ d := by
          rintro rfl
          exact control low
        refine Or.inl ⟨?_, quote, backslash, control⟩
        simp only [escape, quote, backslash, control, ↓reduceIte, apart '\x08' (by decide),
          apart '\x0c' (by decide), apart '\n' (by decide), apart '\r' (by decide),
          apart '\t' (by decide)]

theorem stringBody?_escape {fuel : Nat} {text cs rest : List Char}
    (read : stringBody? fuel text = some (cs, rest)) (c : Char) :
    stringBody? (fuel + 1) (escape c ++ text) = some (c :: cs, rest) := by
  rcases escape_cases c with ⟨shown, quote, backslash, printable⟩ | ⟨e, escaped, reads⟩
  · simp [shown, stringBody?, printable, read]
  · simp [escaped, stringBody?, reads, read]

theorem stringBody?_flatMap_escape (cs rest : List Char) {fuel : Nat}
    (enough : cs.length ≤ fuel) :
    stringBody? fuel (cs.flatMap escape ++ '"' :: rest) = some (cs, rest) := by
  induction cs generalizing fuel with
  | nil => cases fuel <;> rfl
  | cons c cs ih =>
    cases fuel with
    | zero => simp at enough
    | succ fuel =>
      rw [List.flatMap_cons, List.append_assoc]
      exact stringBody?_escape (ih (Nat.le_of_succ_le_succ enough)) c

theorem length_le_flatMap_escape (cs : List Char) : cs.length ≤ (cs.flatMap escape).length := by
  induction cs with
  | nil => exact Nat.le_refl 0
  | cons c cs ih =>
    have written : 1 ≤ (escape c).length := by
      rcases escape_cases c with ⟨shown, _⟩ | ⟨e, escaped, _⟩
      · simp [shown]
      · simp [escaped]
    simp only [List.flatMap_cons, List.length_append, List.length_cons]
    omega

/-- A quoted string reads back, whatever is in it. -/
theorem string?_quoted (s : String) (rest : List Char) :
    string? (quoted s ++ rest) = some (s, rest) := by
  have enough : s.toList.length ≤ (s.toList.flatMap escape ++ '"' :: rest).length := by
    have escaped := length_le_flatMap_escape s.toList
    rw [List.length_append]
    omega
  simp only [quoted, List.cons_append, List.append_assoc, List.nil_append, string?,
    stringBody?_flatMap_escape _ _ enough, Option.map_some, String.ofList_toList]

/-! ## Numbers -/

/-- What may follow a value: a comma, a closing bracket, white space or nothing. None of them goes
on with a number. -/
def Ends (rest : List Char) : Prop :=
  ∀ c ∈ rest.head?, c = ',' ∨ c = ']' ∨ c = '}' ∨ isSpace c

theorem ends_nil : Ends [] := by simp [Ends]

theorem Ends.apart {c : Char} {rest : List Char} (ends : Ends (c :: rest)) :
    isDigit c = false ∧ c ≠ '.' ∧ c ≠ 'e' ∧ c ≠ 'E' := by
  have ending := ends c rfl
  simp only [isSpace, Bool.or_eq_true, decide_eq_true_eq] at ending
  rcases ending with rfl | rfl | rfl | ((rfl | rfl) | rfl) | rfl <;> decide

theorem isDigit_of_mem_toDigits {n : Nat} {c : Char} (h : c ∈ Nat.toDigits 10 n) :
    isDigit c = true := by
  have digit := Nat.isDigit_of_mem_toDigits (by decide) (by decide) h
  simpa [isDigit, Char.isDigit, Char.le_def] using digit

theorem digitValue_of_isDigit {c : Char} (digit : isDigit c = true) :
    digitValue c = c.toNat - '0'.toNat := by
  simp only [digitValue, digit, ↓reduceIte]
  rfl

theorem ofDigits_eq_ofDigitChars {cs : List Char} (digits : ∀ c ∈ cs, isDigit c = true) :
    ofDigits 10 cs = Nat.ofDigitChars 10 cs 0 := by
  have run : ∀ start,
      cs.foldl (fun n c => n * 10 + digitValue c) start = Nat.ofDigitChars 10 cs start := by
    induction cs with
    | nil => exact fun _ => rfl
    | cons c cs ih =>
      intro start
      obtain ⟨digit, others⟩ := List.forall_mem_cons.mp digits
      rw [List.foldl_cons, ih others, Nat.ofDigitChars_cons, digitValue_of_isDigit digit,
        Nat.mul_comm]
  exact run 0

theorem ofDigits_toDigits (n : Nat) : ofDigits 10 (Nat.toDigits 10 n) = n := by
  rw [ofDigits_eq_ofDigitChars fun _ => isDigit_of_mem_toDigits]
  exact Nat.ofDigitChars_ten_toDigits

/-- Only zero itself starts with a zero. -/
theorem head?_toDigits_ne_zero {n : Nat} (positive : 0 < n) :
    (Nat.toDigits 10 n).head? ≠ some '0' := by
  induction n using Nat.strongRecOn with
  | ind n ih =>
    by_cases small : n < 10
    · rw [Nat.toDigits_of_lt_base small]
      simpa using Nat.ne_of_gt positive
    · have leading := ih (n / 10) (by omega) (by omega)
      rw [Nat.toDigits_of_base_le (by decide) (by omega), List.head?_append]
      cases started : (Nat.toDigits 10 (n / 10)).head? with
      | none => exact absurd (List.head?_eq_none_iff.mp started) Nat.toDigits_ne_nil
      | some c => rwa [started] at leading

theorem span_isDigit_append {cs rest : List Char} (digits : ∀ c ∈ cs, isDigit c = true)
    (ends : Ends rest) : (cs ++ rest).span isDigit = (cs, rest) := by
  have stops : rest.takeWhile isDigit = [] ∧ rest.dropWhile isDigit = rest := by
    cases rest with
    | nil => exact ⟨rfl, rfl⟩
    | cons c rest => simp [ends.apart.1]
  rw [List.span_eq_takeWhile_dropWhile, List.takeWhile_append_of_pos digits,
    List.dropWhile_append_of_pos digits, stops.1, stops.2, List.append_nil]

theorem integer?_toDigits (n : Nat) {rest : List Char} (ends : Ends rest) :
    integer? (Nat.toDigits 10 n ++ rest) = some (Nat.toDigits 10 n, rest) := by
  rcases Nat.eq_zero_or_pos n with rfl | positive
  · rfl
  · have spanned := span_isDigit_append (fun _ => isDigit_of_mem_toDigits (n := n)) ends
    have leading := head?_toDigits_ne_zero positive
    cases written : Nat.toDigits 10 n with
    | nil => exact absurd written Nat.toDigits_ne_nil
    | cons c cs =>
      rw [written] at spanned leading
      simp only [List.head?_cons, ne_eq, Option.some.injEq] at leading
      have digits : integer? (c :: (cs ++ rest)) = digits? (c :: (cs ++ rest)) := by
        simp [integer?, leading]
      rw [List.cons_append] at spanned ⊢
      rw [digits, digits?, spanned]

theorem fraction?_of_ends {rest : List Char} (ends : Ends rest) :
    fraction? rest = some (false, rest) := by
  cases rest with
  | nil => rfl
  | cons c rest =>
    obtain ⟨-, point, small, capital⟩ := ends.apart
    simp [fraction?, point, small, capital]

theorem toDigits_eq_cons (n : Nat) :
    ∃ c cs, Nat.toDigits 10 n = c :: cs ∧ isDigit c = true := by
  cases written : Nat.toDigits 10 n with
  | nil => exact absurd written Nat.toDigits_ne_nil
  | cons c cs => exact ⟨c, cs, rfl, isDigit_of_mem_toDigits (written ▸ List.mem_cons_self)⟩

/-- A natural number reads back where nothing goes on with it. -/
theorem number?_toDigits (n : Nat) {rest : List Char} (ends : Ends rest) :
    number? (Nat.toDigits 10 n ++ rest) = some (.natural n, rest) := by
  have read := integer?_toDigits n ends
  have value := ofDigits_toDigits n
  obtain ⟨c, cs, written, digit⟩ := toDigits_eq_cons n
  have unsigned : c ≠ '-' := by
    rintro rfl
    exact absurd digit (by decide)
  rw [written] at value read ⊢
  rw [List.cons_append] at read ⊢
  simp [number?, unsigned, read, fraction?_of_ends ends, value]

/-- The one text of a number that is no natural number. -/
theorem number?_scalar {rest : List Char} (ends : Ends rest) :
    number? (['0', '.', '0'] ++ rest) = some (.scalar, rest) := by
  have digits : digits? ('0' :: rest) = some (['0'], rest) := by
    have single : ∀ c ∈ ['0'], isDigit c = true := List.forall_mem_singleton.mpr rfl
    rw [digits?, ← List.singleton_append, span_isDigit_append single ends]
  have broken : fraction? ('.' :: '0' :: rest) = some (true, rest) := by
    cases rest with
    | nil => rfl
    | cons c rest =>
      obtain ⟨-, -, small, capital⟩ := ends.apart
      simp [fraction?, digits, small, capital]
  simp [number?, integer?, broken]

end ColumnOrigin.Json
