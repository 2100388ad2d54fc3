import ColumnOrigin.Proofs.Query.Resolver
import Mathlib.Data.List.Basic

/-!
# Qualifiers that nothing declares

A qualifier that the FROM clause does not declare is used as a table's name. It is reported exactly
when there is some alias to compare it with (`dangling_reported_iff`), so a table that the analysis
makes up is reported unless the FROM clause has no base table at all.
-/

namespace ColumnOrigin

namespace Sql

/-- Some column's last projected occurrence has this qualifier. -/
def Select.Qualifies (folding : CaseFolding) (s : Select) (origin : String) : Prop :=
  ∃ column qualifier, s.qualifierOf? folding column = some qualifier ∧
    folding.fold qualifier = origin

theorem qualifies_iff_origin {s : Select} (folding : CaseFolding) (origin : String) :
    s.Qualifies folding origin ↔
      ∃ k : String, (Origins.ofColumns folding s.shape.columns).origins[k]? = some origin := by
  constructor
  · rintro ⟨column, qualifier, qualified, rfl⟩
    exact ⟨folding.fold column, by rw [Origins.origin_of_column, qualified, Option.map_some]⟩
  · rintro ⟨k, hk⟩
    -- The key is the folded name of a projected column.
    obtain ⟨column, rfl⟩ : ∃ column, folding.fold column = k := by
      rw [Origins.origins_ofColumns] at hk
      cases found : s.shape.columns.findRev? fun c => folding.fold c.name = k with
      | none =>
        rw [found] at hk
        cases hk
      | some c =>
        rw [List.findRev?_eq_find?_reverse] at found
        exact ⟨c.name, by simpa using List.find?_some found⟩
    rw [Origins.origin_of_column] at hk
    obtain ⟨qualifier, qualified, same⟩ := Option.map_eq_some_iff.mp hk
    exact ⟨column, qualifier, qualified, same⟩

end Sql

namespace Resolver
variable {dialect : Dialect} {resource : Resource} {s : Sql.Select}

theorem mem_danglingOrigins (aliases origins : NameMap String) (unresolved : NameSet)
    (origin : String) :
    origin ∈ danglingOrigins aliases origins unresolved ↔
      ¬ aliases.isEmpty ∧ (∃ k : String, origins[k]? = some origin) ∧
        aliases[origin]? = none ∧ origin ∉ unresolved := by
  rw [danglingOrigins]
  split
  · rename_i empty
    exact ⟨fun h => absurd h List.not_mem_nil, fun h => absurd empty h.1⟩
  · rename_i some
    rw [Std.ExtTreeSet.mem_toList, NameSet.mem_ofNames, List.mem_filter, NameMap.mem_values]
    simp only [Bool.and_eq_true, Bool.not_eq_true', ← Bool.not_eq_true,
      Std.ExtTreeMap.contains_iff_mem, Std.ExtTreeSet.contains_iff_mem,
      ← Option.not_isSome_iff_eq_none, Std.ExtTreeMap.isSome_getElem?_iff_mem]
    exact ⟨fun h => ⟨some, h⟩, fun h => h.2⟩

/-- Only the dangling origins are reported under their code. -/
theorem dangling_reported (h : resource.Selects dialect s) (origin : String) :
    (∃ d ∈ (ofResource dialect resource).diagnostics,
      d.code = .sqlDanglingCorrelation ∧ d.subject = some origin) ↔
    origin ∈ danglingOrigins (s.correlations dialect.caseFolding).aliases
      (Origins.without (Origins.ofColumns dialect.caseFolding s.shape.columns).origins
        (s.correlations dialect.caseFolding).unresolved)
      (s.correlations dialect.caseFolding).unresolved := by
  rw [ofResource_of_selects h]
  constructor
  · rintro ⟨_, hd, code, subject⟩
    simp only [ofShape, List.mem_map] at hd
    obtain ⟨d, hd, rfl⟩ := hd
    simp only [List.mem_append, List.mem_map] at hd
    obtain ((hd | hd) | ⟨other, ho, rfl⟩) | ⟨_, _, rfl⟩ := hd
    · cases (Correlations.codes_ofNodes _ _ d hd).symm.trans code
    · cases (Origins.codes_ofColumns _ _ d hd).symm.trans code
    · obtain rfl : other = origin := Option.some.inj subject
      exact ho
    · cases code
  · intro ho
    refine ⟨(danglingCorrelation origin).withContext resource.name, ?_, rfl, rfl⟩
    apply List.mem_map_of_mem
    simp only [List.mem_append]
    exact Or.inl (Or.inr (List.mem_map_of_mem ho))

/-- **A qualifier is reported as dangling exactly when nothing declares it**, neither a base table
nor an unsupported construct, and the FROM clause has a base table. -/
theorem dangling_reported_iff (h : resource.Selects dialect s) (origin : String) :
    (∃ d ∈ (ofResource dialect resource).diagnostics,
      d.code = .sqlDanglingCorrelation ∧ d.subject = some origin) ↔
    FromNode.baseTables s.shape.sources ≠ [] ∧ s.Qualifies dialect.caseFolding origin ∧
      (∀ t ∈ FromNode.baseTables s.shape.sources,
        dialect.caseFolding.fold t.correlation ≠ origin) ∧
      origin ∉ (s.correlations dialect.caseFolding).unresolved := by
  rw [dangling_reported h, mem_danglingOrigins, Sql.qualifies_iff_origin]
  simp only [Sql.Select.correlations, Correlations.isEmpty_aliases_iff,
    Correlations.alias_eq_none_iff, Origins.getElem?_without, Option.filter_eq_some_iff]
  constructor
  · rintro ⟨present, ⟨k, hk, _⟩, undeclared, resolved⟩
    exact ⟨present, ⟨k, hk⟩, undeclared, resolved⟩
  · rintro ⟨present, ⟨k, hk⟩, undeclared, resolved⟩
    refine ⟨present, ⟨k, hk, ?_⟩, undeclared, resolved⟩
    simpa only [Bool.not_eq_true', ← Bool.not_eq_true, Std.ExtTreeSet.contains_iff_mem] using
      resolved

/-- **No table is made up in silence.** A column belongs to the default table, to a base table of
the FROM clause, or to its own qualifier, which is then reported exactly when the FROM clause has
a base table. -/
theorem tableOf_accounted (h : resource.Selects dialect s) (column : String) :
    let table := (ofResource dialect resource).tableOf column
    table = resource.table ∨
    (∃ t ∈ FromNode.baseTables s.shape.sources, dialect.caseFolding.fold t.table = table) ∨
    ∃ qualifier, s.qualifierOf? dialect.caseFolding column = some qualifier ∧
      dialect.caseFolding.fold qualifier = table ∧
      ((∃ d ∈ (ofResource dialect resource).diagnostics,
        d.code = .sqlDanglingCorrelation ∧ d.subject = some table) ↔
      FromNode.baseTables s.shape.sources ≠ []) := by
  intro table
  have found : table = (ofResource dialect resource).tableOf column := rfl
  rw [tableOf_of_selects h] at found
  cases qualified : s.qualifierOf? dialect.caseFolding column with
  | none => exact Or.inl (by rw [found, qualified])
  | some qualifier =>
    simp only [qualified] at found
    split at found
    · exact Or.inl found
    · rename_i resolved
      right
      cases called : (s.correlations dialect.caseFolding).aliases[
          dialect.caseFolding.fold qualifier]? with
      | some base =>
        obtain ⟨t, ht, _, same⟩ := Correlations.baseTable_of_alias _ called
        exact Or.inl ⟨t, ht, by rw [found, called, same, Option.getD_some]⟩
      | none =>
        rw [called, Option.getD_none] at found
        have undeclared := (Correlations.alias_eq_none_iff _ _ _).mp called
        refine Or.inr ⟨qualifier, rfl, found.symm, ?_⟩
        rw [dangling_reported_iff h, found]
        exact ⟨fun reported => reported.1,
          fun present => ⟨present, ⟨column, qualifier, qualified, rfl⟩, undeclared, resolved⟩⟩

/-- The qualifier names neither the table nor its alias. -/
def foreign : Resource where
  name := "foreign"
  query := "SELECT other.x FROM t1 a"
  table := "film"

def foreignSelect : Sql.Select where
  projection := [.unnamed (.column ["other", "x"])]
  sources := [.single (.table ["t1"] false (some "a"))]

theorem reported_foreign :
    foreign.Selects .oracle foreignSelect ∧
      (ofResource .oracle foreign).tableOf "x" = "OTHER" ∧
      ∃ d ∈ (ofResource .oracle foreign).diagnostics,
        d.code = .sqlDanglingCorrelation ∧ d.subject = some "OTHER" := by
  have selects : foreign.Selects .oracle foreignSelect := ⟨_, by decide +kernel, .select⟩
  have table : (ofResource .oracle foreign).tableOf "x" = "OTHER" := by decide +kernel
  have accounted := tableOf_accounted selects "x"
  simp only [table] at accounted
  obtain byDefault | ⟨t, ht, same⟩ | ⟨_, _, _, reported⟩ := accounted
  · exact absurd byDefault (by decide)
  · obtain rfl := List.mem_singleton.mp ht
    exact absurd same (by decide +kernel)
  · exact ⟨selects, table, reported.mpr (List.cons_ne_nil _ _)⟩

/-- There is a qualifier and no FROM clause that could declare it. -/
def fromless : Resource where
  name := "fromless"
  query := "SELECT a.x"
  table := "film"

def fromlessSelect : Sql.Select where
  projection := [.unnamed (.column ["a", "x"])]
  sources := []

/-- Without a FROM clause the qualifier becomes a table's name, and nothing reports it. -/
theorem unreported_fromless :
    fromless.Selects .oracle fromlessSelect ∧
      ¬ ((ofResource .oracle fromless).tableOf "x" = fromless.table ∨
        (∃ t ∈ FromNode.baseTables fromlessSelect.shape.sources,
          Dialect.oracle.caseFolding.fold t.table =
            (ofResource .oracle fromless).tableOf "x") ∨
        ∃ d ∈ (ofResource .oracle fromless).diagnostics, d.code = .sqlDanglingCorrelation ∧
          d.subject = some ((ofResource .oracle fromless).tableOf "x")) := by
  have selects : fromless.Selects .oracle fromlessSelect := ⟨_, by decide +kernel, .select⟩
  have table : (ofResource .oracle fromless).tableOf "x" = "A" := by decide +kernel
  have silent : (ofResource .oracle fromless).diagnostics = [] := by decide +kernel
  refine ⟨selects, ?_⟩
  rw [table, silent]
  rintro (byDefault | ⟨t, ht, _⟩ | ⟨d, hd, _⟩)
  · exact absurd byDefault (by decide)
  · exact List.not_mem_nil ht
  · exact List.not_mem_nil hd

end Resolver

end ColumnOrigin
