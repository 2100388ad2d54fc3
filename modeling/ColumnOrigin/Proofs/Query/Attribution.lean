import ColumnOrigin.Proofs.Query.Resolver
import Mathlib.Data.List.Nodup

/-!
# Attribution over plain tables

The supported FROM clauses are those of plain tables, LEFT and RIGHT joins, commas and parentheses.
There a column's table is settled by the text of the query alone (`Select.Attributes`), and the
analysis finds exactly that table.
-/

namespace ColumnOrigin

namespace Sql

mutual

/-- A table without arguments, or a join of such tables in parentheses that have no alias. -/
def TableFactor.isPlain : TableFactor → Bool
  | .table _ isCall _ => !isCall
  | .nested inner none => inner.isPlain
  | _ => false

def JoinChain.isPlain : JoinChain → Bool
  | .single factor => factor.isPlain
  | .join left operator right => left.isPlain && operator.isOneSided && right.isPlain

end

mutual

/-- The tables that a factor names, in written order. A table is called by its alias, or else by
the last part of its name. -/
def TableFactor.tables : TableFactor → List BaseTable
  | .table name _ correlation =>
    name.getLast?.toList.map fun table => ⟨table, correlation.getD table⟩
  | .nested inner _ => inner.tables
  | _ => []

def JoinChain.tables : JoinChain → List BaseTable
  | .single factor => factor.tables
  | .join left _ right => left.tables ++ right.tables

end

def Select.isPlain (s : Select) : Bool := s.sources.all (·.isPlain)

def Select.tables (s : Select) : List BaseTable := s.sources.flatMap (·.tables)

/-- The table that a column belongs to by the text of the query. Its last projected occurrence
decides, and the qualifier found there is followed to a table once. -/
inductive Select.Attributes (folding : CaseFolding) (s : Select) (defaultTable column : String) :
    String → Prop
  | notProjected (absent : s.lastNamed? folding column = none) :
      Attributes folding s defaultTable column defaultTable
  | unqualified (item : SelectItem) (last : s.lastNamed? folding column = some item)
      (bare : item.qualifier? = none) :
      Attributes folding s defaultTable column defaultTable
  | declared (item : SelectItem) (qualifier : String) (t : BaseTable)
      (last : s.lastNamed? folding column = some item)
      (qualified : item.qualifier? = some qualifier) (member : t ∈ s.tables)
      (called : folding.fold t.correlation = folding.fold qualifier) :
      Attributes folding s defaultTable column (folding.fold t.table)
  | undeclared (item : SelectItem) (qualifier : String)
      (last : s.lastNamed? folding column = some item)
      (qualified : item.qualifier? = some qualifier)
      (unknown : ∀ t ∈ s.tables, folding.fold t.correlation ≠ folding.fold qualifier) :
      Attributes folding s defaultTable column (folding.fold qualifier)

mutual

theorem TableFactor.leaves_of_isPlain (factor : TableFactor) (plain : factor.isPlain) :
    factor.toNode.leaves.filterMap FromNode.baseTable? = factor.tables ∧
      ∀ leaf ∈ factor.toNode.leaves, leaf.withheld = [] := by
  match factor with
  | .table name isCall correlation =>
    cases hn : name.getLast? <;>
      simp [TableFactor.toNode, TableFactor.tables, hn, FromNode.leaves, FromNode.baseTable?,
        FromNode.withheld]
  | .nested inner none =>
    simp only [TableFactor.isPlain] at plain
    simpa only [TableFactor.toNode, TableFactor.tables] using inner.leaves_of_isPlain plain
  | .nested _ (some _) | .derived _ | .other _ _ => simp [TableFactor.isPlain] at plain

theorem JoinChain.leaves_of_isPlain (chain : JoinChain) (plain : chain.isPlain) :
    chain.toNode.leaves.filterMap FromNode.baseTable? = chain.tables ∧
      ∀ leaf ∈ chain.toNode.leaves, leaf.withheld = [] := by
  match chain with
  | .single factor =>
    simp only [JoinChain.isPlain] at plain
    simpa only [JoinChain.toNode, JoinChain.tables] using factor.leaves_of_isPlain plain
  | .join left operator right =>
    simp only [JoinChain.isPlain, Bool.and_eq_true] at plain
    obtain ⟨⟨hl, oneSided⟩, hr⟩ := plain
    obtain ⟨tablesLeft, withheldLeft⟩ := left.leaves_of_isPlain hl
    obtain ⟨tablesRight, withheldRight⟩ := right.leaves_of_isPlain hr
    simp only [JoinChain.toNode, oneSided, ↓reduceIte, FromNode.leaves, List.filterMap_append,
      tablesLeft, tablesRight, JoinChain.tables, List.mem_append, true_and]
    rintro leaf (h | h)
    · exact withheldLeft leaf h
    · exact withheldRight leaf h

end

variable {s : Select}

theorem baseTables_of_isPlain (plain : s.isPlain) (t : BaseTable) :
    t ∈ FromNode.baseTables s.shape.sources ↔ t ∈ s.tables := by
  simp only [FromNode.baseTables, FromNode.visits, Select.shape, Select.tables,
    List.flatMap_map, List.mem_filterMap, List.mem_flatMap, List.mem_reverse]
  have tables (chain : JoinChain) (hc : chain ∈ s.sources) :
      chain.toNode.leaves.filterMap FromNode.baseTable? = chain.tables :=
    (chain.leaves_of_isPlain (List.all_eq_true.mp plain chain hc)).1
  constructor
  · rintro ⟨leaf, ⟨chain, hc, hl⟩, ht⟩
    exact ⟨chain, hc, tables chain hc ▸ List.mem_filterMap.mpr ⟨leaf, hl, ht⟩⟩
  · rintro ⟨chain, hc, ht⟩
    rw [← tables chain hc] at ht
    obtain ⟨leaf, hl, ht⟩ := List.mem_filterMap.mp ht
    exact ⟨leaf, ⟨chain, hc, hl⟩, ht⟩

theorem resolved_of_isPlain (plain : s.isPlain) (folding : CaseFolding) (name : String) :
    name ∉ (s.correlations folding).unresolved := by
  rw [Select.correlations, Correlations.mem_unresolved_ofNodes]
  rintro ⟨leaf, hl, declared, hd, _⟩
  obtain ⟨node, hn, hl⟩ := FromNode.mem_visits.mp hl
  obtain ⟨chain, hc, rfl⟩ := List.mem_map.mp hn
  rw [(chain.leaves_of_isPlain (List.all_eq_true.mp plain chain hc)).2 leaf hl] at hd
  exact List.not_mem_nil hd

/-- Where folded correlation names differ, each of them stands for its own table. -/
theorem alias_of_table {folding : CaseFolding} (plain : s.isPlain)
    (distinct : (s.tables.map fun t => folding.fold t.correlation).Nodup)
    {t : BaseTable} (ht : t ∈ s.tables) :
    (s.correlations folding).aliases[folding.fold t.correlation]? =
      some (folding.fold t.table) := by
  cases h : (s.correlations folding).aliases[folding.fold t.correlation]? with
  | none =>
    have absent := (Correlations.alias_eq_none_iff folding s.shape.sources _).mp h t
      ((baseTables_of_isPlain plain t).mpr ht)
    exact absurd rfl absent
  | some table =>
    obtain ⟨u, hu, called, rfl⟩ := Correlations.baseTable_of_alias folding h
    rw [baseTables_of_isPlain plain] at hu
    rw [List.inj_on_of_nodup_map distinct hu ht called]

theorem alias_of_undeclared {folding : CaseFolding} (plain : s.isPlain) {name : String}
    (unknown : ∀ t ∈ s.tables, folding.fold t.correlation ≠ name) :
    (s.correlations folding).aliases[name]? = none := by
  apply (Correlations.alias_eq_none_iff folding s.shape.sources name).mpr
  intro t ht
  exact unknown t ((baseTables_of_isPlain plain t).mp ht)

end Sql

namespace Resolver
variable {dialect : Dialect} {resource : Resource} {s : Sql.Select}

/-- On the supported clauses nothing is unresolved, so a qualifier is only looked up. -/
theorem tableOf_of_isPlain (h : resource.Selects dialect s) (plain : s.isPlain) (column : String) :
    (ofResource dialect resource).tableOf column =
      match s.qualifierOf? dialect.caseFolding column with
      | some qualifier =>
        let origin := dialect.caseFolding.fold qualifier
        (s.correlations dialect.caseFolding).aliases[origin]?.getD origin
      | none => resource.table := by
  rw [tableOf_of_selects h]
  cases s.qualifierOf? dialect.caseFolding column with
  | none => rfl
  | some qualifier => exact if_neg (Sql.resolved_of_isPlain plain _ _)

theorem attributes_tableOf (h : resource.Selects dialect s) (plain : s.isPlain)
    (column : String) :
    s.Attributes dialect.caseFolding resource.table column
      ((ofResource dialect resource).tableOf column) := by
  rw [tableOf_of_isPlain h plain, Sql.Select.qualifierOf?]
  cases last : s.lastNamed? dialect.caseFolding column with
  | none => exact .notProjected last
  | some item =>
    cases qualified : item.qualifier? with
    | none => simpa only [Option.bind_some, qualified] using .unqualified item last qualified
    | some qualifier =>
      simp only [Option.bind_some, qualified]
      cases found : (s.correlations dialect.caseFolding).aliases[
          dialect.caseFolding.fold qualifier]? with
      | none =>
        refine .undeclared item qualifier last qualified fun t ht => ?_
        exact (Correlations.alias_eq_none_iff _ _ _).mp found t
          ((Sql.baseTables_of_isPlain plain t).mpr ht)
      | some table =>
        obtain ⟨t, ht, called, rfl⟩ := Correlations.baseTable_of_alias _ found
        rw [Sql.baseTables_of_isPlain plain] at ht
        exact .declared item qualifier t last qualified ht called

theorem tableOf_of_attributes (h : resource.Selects dialect s) (plain : s.isPlain)
    (distinct : (s.tables.map fun t => dialect.caseFolding.fold t.correlation).Nodup)
    {column table : String}
    (attributed : s.Attributes dialect.caseFolding resource.table column table) :
    (ofResource dialect resource).tableOf column = table := by
  rw [tableOf_of_isPlain h plain, Sql.Select.qualifierOf?]
  cases attributed with
  | notProjected absent => simp only [absent, Option.bind_none]
  | unqualified item last bare => simp only [last, Option.bind_some, bare]
  | declared item qualifier t last qualified member called =>
    simp only [last, Option.bind_some, qualified, ← called,
      Sql.alias_of_table plain distinct member, Option.getD_some]
  | undeclared item qualifier last qualified unknown =>
    simp only [last, Option.bind_some, qualified, Sql.alias_of_undeclared plain unknown,
      Option.getD_none]

/-- **Attribution is sound and complete.** Over plain tables with correlation names that fold
differently, the analysis gives a column the one table that the query's text gives it. -/
theorem tableOf_iff_attributes (h : resource.Selects dialect s) (plain : s.isPlain)
    (distinct : (s.tables.map fun t => dialect.caseFolding.fold t.correlation).Nodup)
    (column table : String) :
    (ofResource dialect resource).tableOf column = table ↔
      s.Attributes dialect.caseFolding resource.table column table := by
  constructor
  · rintro rfl
    exact attributes_tableOf h plain column
  · exact tableOf_of_attributes h plain distinct

/-- The table `b` is called `c`, and `b` is what the table `a` is called. -/
def crossNamed : Resource where
  name := "cross"
  query := "SELECT b.x, s.c.y AS X FROM a b, (s.b c LEFT JOIN e ON 1 = 1)"
  table := "d"

def crossNamedSelect : Sql.Select where
  projection := [.unnamed (.column ["b", "x"]), .aliased (.column ["s", "c", "y"]) "X"]
  sources := [.single (.table ["a"] false (some "b")),
    .single (.nested (.join (.single (.table ["s", "b"] false (some "c"))) .leftOuter
      (.table ["e"] false none)) none)]

/-- The qualifier `c` leads to the table `b` and no further, though `b` stands for `a`. -/
theorem tableOf_crossNamed :
    crossNamed.Selects .oracle crossNamedSelect ∧ crossNamedSelect.isPlain ∧
      (crossNamedSelect.tables.map fun t => Dialect.oracle.caseFolding.fold t.correlation).Nodup ∧
      (ofResource .oracle crossNamed).tableOf "x" = "B" := by
  have selects : crossNamed.Selects .oracle crossNamedSelect :=
    ⟨_, by decide +kernel, .select⟩
  have plain : crossNamedSelect.isPlain := by decide
  have distinct : (crossNamedSelect.tables.map fun t =>
      Dialect.oracle.caseFolding.fold t.correlation).Nodup := by decide +kernel
  have folded : Dialect.oracle.caseFolding.fold "b" = "B" := by decide +kernel
  refine ⟨selects, plain, distinct, (tableOf_iff_attributes selects plain distinct "x" "B").mpr ?_⟩
  rw [← folded]
  exact .declared (.aliased (.column ["s", "c", "y"]) "X") "c" ⟨"b", "c"⟩ (by decide +kernel) rfl
    (by decide) rfl

end Resolver

end ColumnOrigin
