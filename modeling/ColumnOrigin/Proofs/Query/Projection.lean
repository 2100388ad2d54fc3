import ColumnOrigin.Proofs.Names
import ColumnOrigin.Query.Origins
import Mathlib.Data.List.Induction

/-!
# The projection, item by item

A column is known by its last projected item (`Select.lastNamed?`), and its origin is that item's
qualifier, folded: `origin_of_column`. Items without a name, wildcards among them, never matter.
Each item after the first of its name leaves a diagnostic (`diagnostics_ofColumns`).
-/

namespace ColumnOrigin

/-- The names that stand earlier in the list too, at each place where they do so again. -/
def repeats (names : List String) : List String :=
  (names.zipIdx.filter fun e => e.1 ∈ names.take e.2).map Prod.fst

theorem repeats_concat (names : List String) (name : String) :
    repeats (names ++ [name]) = repeats names ++ if name ∈ names then [name] else [] := by
  have earlier : (names.zipIdx.filter fun e => e.1 ∈ (names ++ [name]).take e.2) =
      names.zipIdx.filter fun e => e.1 ∈ names.take e.2 := by
    refine List.filter_congr fun e he => ?_
    have within : e.2 ≤ names.length := by
      have := (List.mem_zipIdx he).2.1
      omega
    rw [List.take_append_of_le_length within]
  rw [repeats, List.zipIdx_append, List.filter_append, earlier, List.map_append, Nat.zero_add,
    ← repeats]
  by_cases again : name ∈ names <;> simp [again]

namespace Sql

/-- The name that an item has in the result: its alias, or that of the column it refers to. -/
def SelectItem.outputName? : SelectItem → Option String
  | .unnamed (.column parts) => parts.getLast?
  | .aliased _ name => some name
  | _ => none

/-- The qualifier of the column that an item refers to, which is `q` in `s.q.x`. -/
def SelectItem.qualifier? : SelectItem → Option String
  | .unnamed (.column parts) => parts.dropLast.getLast?
  | .aliased (.column parts) _ => parts.dropLast.getLast?
  | _ => none

/-- The item has a name, and it is the column's to the database. -/
def SelectItem.isNamed (folding : CaseFolding) (column : String) (item : SelectItem) : Bool :=
  item.outputName?.any fun name => folding.fold name = folding.fold column

/-- The last projected item that has the column's name. -/
def Select.lastNamed? (folding : CaseFolding) (s : Select) (column : String) :
    Option SelectItem :=
  s.projection.findRev? (·.isNamed folding column)

/-- The qualifier of a column's last projected occurrence. -/
def Select.qualifierOf? (folding : CaseFolding) (s : Select) (column : String) : Option String :=
  (s.lastNamed? folding column).bind (·.qualifier?)

theorem outputName_of_lastNamed {folding : CaseFolding} {s : Select} {column : String}
    {item : SelectItem} (h : s.lastNamed? folding column = some item) :
    ∃ name, item.outputName? = some name := by
  rw [Select.lastNamed?, List.findRev?_eq_find?_reverse] at h
  have named := List.find?_some h
  cases hn : item.outputName? with
  | some name => exact ⟨name, rfl⟩
  | none => simp [SelectItem.isNamed, hn] at named

/-- Where projected names fold differently, an item is the last of its name. -/
theorem lastNamed_of_distinct {folding : CaseFolding} {s : Select} {column name : String}
    {item : SelectItem}
    (distinct : ((s.projection.filterMap (·.outputName?)).map folding.fold).Nodup)
    (member : item ∈ s.projection) (named : item.outputName? = some name)
    (same : folding.fold name = folding.fold column) :
    s.lastNamed? folding column = some item := by
  rw [Select.lastNamed?, List.findRev?_eq_find?_reverse, List.find?_eq_some_iff_append]
  obtain ⟨before, after, split⟩ := List.append_of_mem member
  refine ⟨by simp [SelectItem.isNamed, named, same], after.reverse, before.reverse, ?_, ?_⟩
  · simp [split]
  · intro other later
    rw [split, List.filterMap_append, List.filterMap_cons_some named, List.map_append,
      List.map_cons, List.nodup_append, List.nodup_cons] at distinct
    cases found : other.outputName? with
    | none => simp [SelectItem.isNamed, found]
    | some again =>
      have apart : folding.fold again ≠ folding.fold name := by
        intro equal
        refine distinct.2.1.1 (equal ▸ List.mem_map_of_mem ?_)
        exact List.mem_filterMap.mpr ⟨other, List.mem_reverse.mp later, found⟩
      simp [SelectItem.isNamed, found, ← same, apart]

theorem reference_column (parts : List String) :
    (Expr.column parts).reference? =
      parts.getLast?.map fun name => (name, parts.dropLast.getLast?) := by
  obtain ⟨reversed, rfl⟩ : ∃ reversed, parts = reversed.reverse := ⟨parts.reverse, by simp⟩
  match reversed with
  | [] => rfl
  | [name] => rfl
  | name :: qualifier :: _ => simp [Expr.reference?]

/-- What a projected item adds is its name and its qualifier. -/
theorem column_eq (item : SelectItem) :
    item.column? = item.outputName?.map fun name => ⟨name, item.qualifier?⟩ := by
  cases item with
  | wildcard => rfl
  | qualifiedWildcard qualifier => rfl
  | unnamed e =>
    cases e with
    | column parts =>
      simp only [SelectItem.column?, reference_column, Option.map_map, SelectItem.outputName?,
        SelectItem.qualifier?]
      rfl
    | computed => rfl
  | aliased e name =>
    cases e with
    | column parts =>
      simp only [SelectItem.column?, reference_column, SelectItem.outputName?, Option.map_some,
        SelectItem.qualifier?]
      -- A name without parts has no last part, and no last part but one either.
      rcases List.eq_nil_or_concat parts with rfl | ⟨front, last, rfl⟩
      · rfl
      · simp
    | computed => rfl

end Sql

namespace Origins
variable (folding : CaseFolding)

/-- A column without a qualifier takes the origin of its name away. -/
theorem origins_add (o : Origins) (c : ProjectedColumn) (k : String) :
    (add folding o c).origins[k]? =
      if folding.fold c.name = k then c.qualifier.map folding.fold else o.origins[k]? := by
  cases hq : c.qualifier with
  | some qualifier => simp [add, hq, NameMap.getElem?_insert]
  | none => simp [add, hq, Std.ExtTreeMap.getElem?_erase]

theorem origins_foldl (columns : List ProjectedColumn) (o : Origins) (k : String) :
    (columns.foldl (add folding) o).origins[k]? =
      match columns.findRev? (fun c => folding.fold c.name = k) with
      | some c => c.qualifier.map folding.fold
      | Option.none => o.origins[k]? := by
  induction columns generalizing o with
  | nil => rfl
  | cons c rest ih =>
    rw [List.foldl_cons, ih, List.findRev?]
    cases rest.findRev? (fun c => folding.fold c.name = k) with
    | some later => rfl
    | none =>
      simp only [origins_add]
      by_cases same : folding.fold c.name = k <;> simp [same]

/-- The last column of a name decides its origin. -/
theorem origins_ofColumns (columns : List ProjectedColumn) (k : String) :
    (ofColumns folding columns).origins[k]? =
      ((columns.findRev? fun c => folding.fold c.name = k).bind (·.qualifier)).map
        folding.fold := by
  rw [ofColumns, origins_foldl]
  cases columns.findRev? (fun c => folding.fold c.name = k) <;> simp [none]

theorem origin_of_column (s : Sql.Select) (column : String) :
    (ofColumns folding s.shape.columns).origins[folding.fold column]? =
      (s.qualifierOf? folding column).map folding.fold := by
  have last : s.shape.columns.findRev? (fun c => folding.fold c.name = folding.fold column) =
      (s.lastNamed? folding column).bind (·.column?) := by
    simp only [Sql.Select.shape, Sql.Select.lastNamed?, List.findRev?_eq_find?_reverse,
      ← List.filterMap_reverse, List.find?_filterMap]
    congr 2
    funext item
    simp only [Sql.column_eq, Sql.SelectItem.isNamed, Option.any_map]
  rw [origins_ofColumns, last, Sql.Select.qualifierOf?]
  cases h : s.lastNamed? folding column with
  | none => rfl
  | some item =>
    obtain ⟨name, hn⟩ := Sql.outputName_of_lastNamed h
    simp [Sql.column_eq, hn]

theorem ofColumns_concat (columns : List ProjectedColumn) (c : ProjectedColumn) :
    ofColumns folding (columns ++ [c]) = add folding (ofColumns folding columns) c := by
  simp only [ofColumns, List.foldl_append, List.foldl_cons, List.foldl_nil]

theorem mem_seen_ofColumns (columns : List ProjectedColumn) (k : String) :
    k ∈ (ofColumns folding columns).seen ↔ k ∈ columns.map fun c => folding.fold c.name := by
  induction columns using List.reverseRecOn with
  | nil => simp [ofColumns, none]
  | append_singleton columns c ih =>
    rw [ofColumns_concat, add, Std.ExtTreeSet.mem_insert, Std.compare_eq_iff_eq, ih]
    simp [or_comm, eq_comm]

/-- Each column whose name has been projected before leaves one diagnostic, in their order. -/
theorem diagnostics_ofColumns (columns : List ProjectedColumn) :
    (ofColumns folding columns).diagnostics =
      (repeats (columns.map fun c => folding.fold c.name)).map ambiguousProjection := by
  induction columns using List.reverseRecOn with
  | nil => rfl
  | append_singleton columns c ih =>
    rw [ofColumns_concat, List.map_append, List.map_singleton, repeats_concat]
    simp only [add, mem_seen_ofColumns, ih]
    split <;> simp

theorem codes_ofColumns (columns : List ProjectedColumn) :
    ∀ d ∈ (ofColumns folding columns).diagnostics, d.code = .sqlAmbiguousProjection := by
  intro d hd
  rw [diagnostics_ofColumns] at hd
  obtain ⟨name, _, rfl⟩ := List.mem_map.mp hd
  rfl

/-- The origins that are left when some names are taken out. -/
theorem getElem?_without (origins : NameMap String) (names : NameSet) (k : String) :
    (without origins names)[k]? = origins[k]?.filter fun origin => !names.contains origin := by
  rw [without, Std.ExtTreeMap.getElem?_filter']

end Origins

end ColumnOrigin
