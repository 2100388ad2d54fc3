import ColumnOrigin.Names

/-! What maps and sets of names hold after a list of writes. Reading a map answers with the last
write of that name, whatever the order of the names. -/

namespace ColumnOrigin

section
variable {β : Type} {p : β → Prop} {items : List β} {b : β}

/-- `b` is the last of the items of which `p` holds. -/
def IsLast (p : β → Prop) (items : List β) (b : β) : Prop :=
  ∃ earlier later, items = earlier ++ b :: later ∧ p b ∧ ∀ other ∈ later, ¬ p other

theorem findRev?_eq_some_iff [DecidablePred p] :
    items.findRev? (fun b => p b) = some b ↔ IsLast p items b := by
  rw [List.findRev?_eq_find?_reverse, List.find?_eq_some_iff_append]
  simp only [decide_eq_true_eq, Bool.not_eq_true', decide_eq_false_iff_not]
  constructor
  · rintro ⟨holds, later, earlier, split, others⟩
    refine ⟨earlier.reverse, later.reverse, ?_, holds, by simpa using others⟩
    simpa using congrArg List.reverse split
  · rintro ⟨earlier, later, rfl, holds, others⟩
    exact ⟨holds, later.reverse, earlier.reverse, by simp, by simpa using others⟩

theorem IsLast.mem (last : IsLast p items b) : b ∈ items := by
  obtain ⟨earlier, later, rfl, -, -⟩ := last
  simp

theorem IsLast.holds (last : IsLast p items b) : p b := by
  obtain ⟨-, -, -, holds, -⟩ := last
  exact holds

open Classical in
theorem IsLast.unique {c : β} (last : IsLast p items b) (last' : IsLast p items c) : b = c :=
  Option.some.inj ((findRev?_eq_some_iff.mpr last).symm.trans (findRev?_eq_some_iff.mpr last'))

open Classical in
theorem exists_isLast (member : b ∈ items) (holds : p b) : ∃ c, IsLast p items c := by
  cases found : items.findRev? (fun b => p b) with
  | some c => exact ⟨c, findRev?_eq_some_iff.mp found⟩
  | none =>
    rw [List.findRev?_eq_find?_reverse, List.find?_eq_none] at found
    exact absurd holds (by simpa using found b (List.mem_reverse.mpr member))

/-- An item is the last of its kind in every order exactly if it is the only one. -/
theorem forall_perm_isLast_iff (member : b ∈ items) (holds : p b) :
    (∀ order : List β, order.Perm items → IsLast p order b) ↔
      ∀ other ∈ items, p other → other = b := by
  constructor
  · intro always other present alike
    obtain ⟨front, back, rfl⟩ := List.append_of_mem present
    have moved : (front ++ back ++ [other]).Perm (front ++ other :: back) := by
      rw [List.append_assoc]
      exact List.Perm.append_left front (List.perm_append_singleton other back)
    have final : IsLast p (front ++ back ++ [other]) other := ⟨front ++ back, [], rfl, alike, nofun⟩
    exact final.unique (always _ moved)
  · intro only order perm
    obtain ⟨c, last⟩ := exists_isLast (perm.mem_iff.mpr member) holds
    obtain rfl := only c (perm.mem_iff.mp last.mem) last.holds
    exact last

end

namespace NameMap
variable {α : Type}

theorem getElem?_insert (m : NameMap α) (name k : String) (a : α) :
    (m.insert name a)[k]? = if name = k then some a else m[k]? := by
  simp only [Std.ExtTreeMap.getElem?_insert, Std.compare_eq_iff_eq]

theorem insert_insert (m : NameMap α) (name : String) (a b : α) :
    (m.insert name a).insert name b = m.insert name b := by
  refine Std.ExtTreeMap.ext_getElem? fun k => ?_
  simp only [getElem?_insert]
  split <;> rfl

theorem getElem?_foldl_insert (entries : List (String × α)) (m : NameMap α) (k : String) :
    (entries.foldl (fun m e => m.insert e.1 e.2) m)[k]? =
      (entries.reverse.lookup k).or m[k]? := by
  induction entries generalizing m with
  | nil => simp
  | cons e rest ih =>
    obtain ⟨name, a⟩ := e
    rw [List.foldl_cons, ih, getElem?_insert, List.reverse_cons, List.lookup_append]
    by_cases same : name = k
    · subst same
      cases rest.reverse.lookup name <;> simp
    · have other : (k == name) = false := by simpa using Ne.symm same
      simp [List.lookup_cons, other, same]

/-- The last entry of a name counts. -/
theorem getElem?_ofEntries (entries : List (String × α)) (k : String) :
    (ofEntries entries)[k]? = entries.reverse.lookup k := by
  rw [ofEntries, getElem?_foldl_insert]
  simp

theorem lookup_map {β : Type} (key : β → String) (value : β → α) (items : List β) (k : String) :
    (items.map fun b => (key b, value b)).lookup k =
      (items.find? fun b => key b = k).map value := by
  induction items with
  | nil => rfl
  | cons b rest ih =>
    by_cases called : key b = k
    · simp [called]
    · have other : (k == key b) = false := by simpa using Ne.symm called
      simp only [List.map_cons, List.lookup_cons, other, List.find?_cons, called, decide_false,
        ← ih]

/-- The last item of a name counts. -/
theorem getElem?_ofEntries_map {β : Type} (key : β → String) (value : β → α) (items : List β)
    (k : String) :
    (ofEntries (items.map fun b => (key b, value b)))[k]? =
      (items.findRev? fun b => key b = k).map value := by
  rw [getElem?_ofEntries, ← List.map_reverse, lookup_map, List.findRev?_eq_find?_reverse]

/-- Where names differ, each of them has its one entry. -/
theorem lookup_of_mem {entries : List (String × α)} (distinct : (entries.map Prod.fst).Nodup)
    {k : String} {a : α} (member : (k, a) ∈ entries) : entries.lookup k = some a := by
  induction entries with
  | nil => exact absurd member List.not_mem_nil
  | cons e rest ih =>
    obtain ⟨name, b⟩ := e
    rw [List.map_cons, List.nodup_cons] at distinct
    rcases List.mem_cons.mp member with same | later
    · cases same
      simp
    · have other : (k == name) = false := by
        rw [beq_eq_false_iff_ne]
        intro same
        have listed : k ∈ rest.map Prod.fst := List.mem_map.mpr ⟨(k, a), later, rfl⟩
        exact distinct.1 (same ▸ listed)
      rw [List.lookup_cons, other]
      exact ih distinct.2 later

theorem nodup_keys_toList (m : NameMap α) : (m.toList.map Prod.fst).Nodup := by
  rw [List.Nodup, List.pairwise_map]
  refine (Std.ExtTreeMap.distinct_keys_toList (t := m)).imp fun {e f} apart same => ?_
  exact apart (Std.compare_eq_iff_eq.mpr same)

/-- The entries of a map make it up again, in whatever order they are. -/
theorem ofEntries_of_perm {m : NameMap α} {entries : List (String × α)}
    (perm : entries.Perm m.toList) : ofEntries entries = m := by
  have distinct : (entries.reverse.map Prod.fst).Nodup := by
    rw [((List.reverse_perm entries).trans perm).map Prod.fst |>.nodup_iff]
    exact nodup_keys_toList m
  have members (k : String) (a : α) : (k, a) ∈ entries.reverse ↔ m[k]? = some a := by
    rw [List.mem_reverse, perm.mem_iff, Std.ExtTreeMap.mem_toList_iff_getElem?_eq_some]
  refine Std.ExtTreeMap.ext_getElem? fun k => ?_
  rw [getElem?_ofEntries]
  cases found : m[k]? with
  | some a => exact lookup_of_mem distinct ((members k a).mpr found)
  | none =>
    rw [List.lookup_eq_none_iff]
    intro e member
    have present := (members e.1 e.2).mp member
    rw [bne_iff_ne]
    rintro rfl
    simp [found] at present

theorem values_eq_map_toList (m : NameMap α) : m.values = m.toList.map Prod.snd := by
  have folded : m.values = m.foldr (fun _ a values => a :: values) [] := rfl
  rw [folded, Std.ExtTreeMap.foldr_eq_foldr_toList]
  induction m.toList with
  | nil => rfl
  | cons e rest ih => simp [ih]

theorem mem_values (m : NameMap α) (a : α) : a ∈ m.values ↔ ∃ k : String, m[k]? = some a := by
  simp [values_eq_map_toList, Std.ExtTreeMap.mem_toList_iff_getElem?_eq_some]

end NameMap

namespace NameSet

theorem mem_foldl_insert {β : Type} (nameOf : β → String) (items : List β) (s : NameSet)
    (k : String) :
    k ∈ items.foldl (fun s b => s.insert (nameOf b)) s ↔ k ∈ s ∨ ∃ b ∈ items, nameOf b = k := by
  induction items generalizing s with
  | nil => simp
  | cons b rest ih =>
    rw [List.foldl_cons, ih, Std.ExtTreeSet.mem_insert, Std.compare_eq_iff_eq]
    simp only [List.mem_cons, exists_eq_or_imp, or_assoc, or_left_comm]

theorem mem_ofNames (names : List String) (k : String) : k ∈ ofNames names ↔ k ∈ names := by
  rw [ofNames, mem_foldl_insert (fun name => name)]
  simp

theorem pairwise_toList (s : NameSet) : s.toList.Pairwise (· < ·) := by
  refine Std.ExtTreeSet.ordered_toList.imp fun {name other} before => ?_
  exact compareOfLessAndEq_eq_lt.mp before

end NameSet

end ColumnOrigin
