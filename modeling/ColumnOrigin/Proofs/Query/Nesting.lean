import ColumnOrigin.Proofs.Query.DeclaredNames
import ColumnOrigin.Proofs.Query.Resolver
import Mathlib.Data.List.Forall2

/-!
# How joins are nested

A tree of outer joins is visited leaf by leaf, from the right, so all that the correlations see of
it is the written order of its leaves (`Correlations.ofNodes_of_leaves`). That includes names that
are declared more than once, where the order of visit decides.

In a chain of LEFT and RIGHT joins the leaves are the factors, with parentheses that have no alias
opened (`Sql.JoinChain.leaves_of_isOneSided`). How such parentheses group the factors is therefore
not seen by the analysis: `Resolver.grouping_not_seen`.
-/

namespace ColumnOrigin

namespace FromNode

theorem visits_of_leaves {nodes others : List FromNode} (h : nodes.map leaves = others.map leaves) :
    visits nodes = visits others := by
  have byLeaves (nodes : List FromNode) :
      visits nodes = (nodes.map leaves).flatMap List.reverse := by
    rw [visits, List.flatMap_map]
  rw [byLeaves, byLeaves, h]

end FromNode

namespace Correlations
open FromNode
variable (folding : CaseFolding)

/-- Only the order of visit matters. -/
theorem ofNodes_of_visits {nodes others : List FromNode} (h : visits nodes = visits others) :
    ofNodes folding nodes = ofNodes folding others := by
  rw [ofNodes_visits, ofNodes_visits folding others, h]

/-- Items with the same leaves come to the same correlations. -/
theorem ofNodes_of_leaves {nodes others : List FromNode}
    (h : nodes.map leaves = others.map leaves) :
    ofNodes folding nodes = ofNodes folding others :=
  ofNodes_of_visits folding (visits_of_leaves h)

end Correlations

namespace Sql

mutual

/-- All joins are LEFT or RIGHT, also those in parentheses that have no alias. -/
def TableFactor.isOneSided : TableFactor → Bool
  | .nested inner none => inner.isOneSided
  | _ => true

def JoinChain.isOneSided : JoinChain → Bool
  | .single factor => factor.isOneSided
  | .join left operator right => left.isOneSided && operator.isOneSided && right.isOneSided

end

/-- Both join the same factors in the same written order, by LEFT and RIGHT joins alone. They may
differ in how parentheses group the factors. -/
def JoinChain.Regroups (chain other : JoinChain) : Prop :=
  chain.isOneSided ∧ other.isOneSided ∧ chain.operands = other.operands

mutual

theorem TableFactor.leaves_of_isOneSided (factor : TableFactor) (h : factor.isOneSided) :
    factor.toNode.leaves = factor.operands.map (·.toNode) := by
  match factor with
  | .nested inner none =>
    rw [TableFactor.isOneSided] at h
    rw [TableFactor.toNode, TableFactor.operands, inner.leaves_of_isOneSided h]
  | .table name _ _ =>
    simp only [TableFactor.operands, List.map_singleton, TableFactor.toNode]
    cases name.getLast? <;> rfl
  | .nested _ (some _) | .derived _ | .other _ _ =>
    simp only [TableFactor.operands, List.map_singleton, TableFactor.toNode, FromNode.leaves]

theorem JoinChain.leaves_of_isOneSided (chain : JoinChain) (h : chain.isOneSided) :
    chain.toNode.leaves = chain.operands.map (·.toNode) := by
  match chain with
  | .single factor =>
    rw [JoinChain.isOneSided] at h
    rw [JoinChain.toNode, JoinChain.operands, factor.leaves_of_isOneSided h]
  | .join left operator right =>
    simp only [JoinChain.isOneSided, Bool.and_eq_true] at h
    obtain ⟨⟨hl, oneSided⟩, hr⟩ := h
    rw [JoinChain.toNode, if_pos oneSided, FromNode.leaves, left.leaves_of_isOneSided hl,
      right.leaves_of_isOneSided hr, JoinChain.operands, List.map_append]

end

theorem JoinChain.Regroups.leaves_eq {chain other : JoinChain} (h : chain.Regroups other) :
    chain.toNode.leaves = other.toNode.leaves := by
  obtain ⟨one, two, same⟩ := h
  rw [chain.leaves_of_isOneSided one, other.leaves_of_isOneSided two, same]

theorem leaves_of_regroups {chains others : List JoinChain}
    (h : List.Forall₂ (fun chain other => chain = other ∨ chain.Regroups other) chains others) :
    (chains.map JoinChain.toNode).map FromNode.leaves =
      (others.map JoinChain.toNode).map FromNode.leaves := by
  induction h with
  | nil => rfl
  | cons here _ ih =>
    simp only [List.map_cons, ih]
    rcases here with rfl | regroups
    · rfl
    · rw [regroups.leaves_eq]

end Sql

namespace Resolver
open Correlations FromNode
variable {dialect : Dialect} {resource other : Resource} {s s' : Sql.Select}

theorem ofResource_of_regroups (h : resource.Selects dialect s) (h' : other.Selects dialect s')
    (name : resource.name = other.name) (table : resource.table = other.table)
    (projection : s.projection = s'.projection)
    (sources : List.Forall₂ (fun chain other => chain = other ∨ chain.Regroups other)
      s.sources s'.sources) :
    ofResource dialect resource = ofResource dialect other := by
  have correlations : ofNodes dialect.caseFolding s.shape.sources =
      ofNodes dialect.caseFolding s'.shape.sources :=
    ofNodes_of_leaves dialect.caseFolding (Sql.leaves_of_regroups sources)
  have columns : s.shape.columns = s'.shape.columns := by
    simp only [Sql.Select.shape, projection]
  have wildcards : s.shape.qualifiedWildcards = s'.shape.qualifiedWildcards := by
    simp only [Sql.Select.shape, projection]
  rw [ofResource_of_selects h, ofResource_of_selects h']
  simp only [ofShape, name, table, correlations, columns, wildcards]

/-- **Parentheses and the nesting of joins are not seen.** Items with the same leaves in the same
order come to the same aliases, unresolved names and diagnostics, whatever outer joins are between
the leaves and however often a name is declared. So a FROM clause of LEFT and RIGHT joins means the
same however parentheses without an alias group its factors, and two resources that differ only in
that are analysed alike. -/
theorem grouping_not_seen :
    (∀ (folding : CaseFolding) (nodes others : List FromNode),
      nodes.map leaves = others.map leaves →
        ofNodes folding nodes = ofNodes folding others) ∧
    (∀ (folding : CaseFolding) (chains others : List Sql.JoinChain),
      List.Forall₂ (fun chain other => chain = other ∨ chain.Regroups other) chains others →
        ofNodes folding (chains.map (·.toNode)) = ofNodes folding (others.map (·.toNode))) ∧
    ∀ (dialect : Dialect) (resource other : Resource) (s s' : Sql.Select),
      resource.Selects dialect s → other.Selects dialect s' → resource.name = other.name →
      resource.table = other.table → s.projection = s'.projection →
      List.Forall₂ (fun chain other => chain = other ∨ chain.Regroups other)
        s.sources s'.sources →
        ofResource dialect resource = ofResource dialect other := by
  refine ⟨?_, ?_, ?_⟩
  · intro folding nodes others h
    exact ofNodes_of_leaves folding h
  · intro folding chains others h
    exact ofNodes_of_leaves folding (Sql.leaves_of_regroups h)
  · intro dialect resource other s s' h h' name table projection sources
    exact ofResource_of_regroups h h' name table projection sources

/-- Inside the parentheses the name `x` is declared twice. -/
def grouped : Resource where
  name := "grouped"
  query := "SELECT x.a FROM s y LEFT JOIN (t x LEFT JOIN u X ON 1) ON 1, v JOIN w ON 1"
  table := "film"

/-- The same tables without the parentheses. -/
def ungrouped : Resource where
  name := "grouped"
  query := "SELECT x.a FROM s y LEFT JOIN t x ON 1 LEFT JOIN u X ON 1, v JOIN w ON 1"
  table := "film"

def groupedSelect : Sql.Select where
  projection := [.unnamed (.column ["x", "a"])]
  sources := [
    .join (.single (.table ["s"] false (some "y"))) .leftOuter
      (.nested (.join (.single (.table ["t"] false (some "x"))) .leftOuter
        (.table ["u"] false (some "X"))) none),
    .join (.single (.table ["v"] false none)) .inner (.table ["w"] false none)]

def ungroupedSelect : Sql.Select where
  projection := [.unnamed (.column ["x", "a"])]
  sources := [
    .join (.join (.single (.table ["s"] false (some "y"))) .leftOuter
      (.table ["t"] false (some "x"))) .leftOuter (.table ["u"] false (some "X")),
    .join (.single (.table ["v"] false none)) .inner (.table ["w"] false none)]

/-- The trees differ, and `x` is the table `t` to both. -/
theorem grouping_not_seen_doubled :
    let nodes := groupedSelect.sources.map (·.toNode)
    let others := ungroupedSelect.sources.map (·.toNode)
    grouped.Selects .oracle groupedSelect ∧ ungrouped.Selects .oracle ungroupedSelect ∧
      nodes ≠ others ∧ nodes.map leaves = others.map leaves ∧
      ofNodes .lower nodes = ofNodes .lower others ∧ ofNodes .upper nodes = ofNodes .upper others ∧
      ofResource .oracle grouped = ofResource .oracle ungrouped ∧
      (ofResource .oracle grouped).tableOf "a" = "T" := by
  intro nodes others
  have selects : grouped.Selects .oracle groupedSelect := ⟨_, by decide +kernel, .select⟩
  have selects' : ungrouped.Selects .oracle ungroupedSelect := ⟨_, by decide +kernel, .select⟩
  have leaves : nodes.map leaves = others.map leaves := by decide +kernel
  have sources : List.Forall₂ (fun chain other => chain = other ∨ chain.Regroups other)
      groupedSelect.sources ungroupedSelect.sources :=
    .cons (.inr ⟨by decide, by decide, by decide⟩) (.cons (.inl rfl) .nil)
  obtain ⟨byLeaves, byFactors, byText⟩ := grouping_not_seen
  refine ⟨selects, selects', by decide +kernel, leaves, byLeaves .lower nodes others leaves,
    byFactors .upper _ _ sources, byText .oracle _ _ _ _ selects selects' rfl rfl rfl sources, ?_⟩
  rw [ofResource_of_selects selects]
  decide +kernel

end Resolver

end ColumnOrigin
