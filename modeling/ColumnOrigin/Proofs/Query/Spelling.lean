import ColumnOrigin.Proofs.Text.Letters
import ColumnOrigin.Query.Resolver
import Mathlib.Data.List.Forall2

/-!
# Another spelling of the same query

Two FROM clauses or projections correspond when they have one form and their names correspond, one
by one. If corresponding names fold to the same, the two have equal correlations and equal origins
(`Correlations.ofNodes_congr`, `Origins.ofColumns_congr`). Names that differ in the case of ASCII
letters alone do, so attribution does not see that case: `Resolver.resolution_of_alike`.
-/

namespace ColumnOrigin

/-- Two FROM items of one form, with corresponding names. -/
inductive FromNode.Alike (Same : String → String → Prop) : FromNode → FromNode → Prop
  | base {table table' : String} {correlation correlation' : Option String} :
      Same table table' → Option.Rel Same correlation correlation' →
      Alike Same (.base table correlation) (.base table' correlation')
  | outerJoin {left left' right right' : FromNode} :
      Alike Same left left' → Alike Same right right' →
      Alike Same (.outerJoin left right) (.outerJoin left' right')
  | unsupported (kind : String) {declared declared' : List String} :
      List.Forall₂ Same declared declared' →
      Alike Same (.unsupported kind declared) (.unsupported kind declared')

/-- Two projected columns with corresponding names and qualifiers. -/
structure ProjectedColumn.Alike (Same : String → String → Prop) (c c' : ProjectedColumn) :
    Prop where
  name : Same c.name c'.name
  qualifier : Option.Rel Same c.qualifier c'.qualifier

/-- Steps that do not tell related items apart come to the same over related lists. -/
theorem foldl_congr_of_forall₂ {α β : Type} {Related : α → α → Prop} {f : β → α → β}
    (step : ∀ b x y, Related x y → f b x = f b y) {xs ys : List α}
    (related : List.Forall₂ Related xs ys) (b : β) : xs.foldl f b = ys.foldl f b := by
  induction related generalizing b with
  | nil => rfl
  | cons here _ ih => rw [List.foldl_cons, List.foldl_cons, step b _ _ here, ih]

section
variable {Same : String → String → Prop} {folding : CaseFolding}

namespace Correlations

theorem add_congr (folds : ∀ s t, Same s t → folding.fold s = folding.fold t)
    {node node' : FromNode} (alike : node.Alike Same node') (c : Correlations) :
    add folding node c = add folding node' c := by
  induction alike generalizing c with
  | base tables correlations =>
    cases correlations with
    | none => simp only [add, Option.getD_none, folds _ _ tables]
    | some names => simp only [add, Option.getD_some, folds _ _ tables, folds _ _ names]
  | outerJoin _ _ ihl ihr => rw [add, add, ihr, ihl]
  | unsupported kind names =>
    rw [add, add, foldl_congr_of_forall₂ ?_ names]
    exact fun s x y same => congrArg s.insert (folds x y same)

theorem ofNodes_congr (folds : ∀ s t, Same s t → folding.fold s = folding.fold t)
    {nodes nodes' : List FromNode} (alike : List.Forall₂ (FromNode.Alike Same) nodes nodes') :
    ofNodes folding nodes = ofNodes folding nodes' := by
  refine foldl_congr_of_forall₂ ?_ alike none
  exact fun c _ _ here => add_congr folds here c

end Correlations

namespace Origins

theorem add_congr (folds : ∀ s t, Same s t → folding.fold s = folding.fold t)
    {c c' : ProjectedColumn} (alike : c.Alike Same c') (o : Origins) :
    add folding o c = add folding o c' := by
  obtain ⟨name, qualifier⟩ := c
  obtain ⟨name', qualifier'⟩ := c'
  obtain ⟨names, qualifiers⟩ := alike
  cases qualifiers with
  | none => simp only [add, folds _ _ names]
  | some same => simp only [add, folds _ _ names, folds _ _ same]

theorem ofColumns_congr (folds : ∀ s t, Same s t → folding.fold s = folding.fold t)
    {columns columns' : List ProjectedColumn}
    (alike : List.Forall₂ (ProjectedColumn.Alike Same) columns columns') :
    ofColumns folding columns = ofColumns folding columns' := by
  refine foldl_congr_of_forall₂ ?_ alike none
  exact fun o _ _ here => add_congr folds here o

end Origins

end

namespace Resolver
open Text (AsciiAlike)

theorem resolveTable_congr {folding : CaseFolding} {name name' : String}
    (same : folding.fold name = folding.fold name') (aliases origins : NameMap String)
    (defaultTable : String) :
    resolveTable folding aliases origins defaultTable name =
      resolveTable folding aliases origins defaultTable name' := by
  rw [resolveTable, resolveTable, same]

/-- **Attribution does not see the case of ASCII letters**, unless names are kept as they are. FROM
clauses and projections that differ in nothing else have equal correlations and equal origins, with
the same diagnostics. Looked up in them, names that differ in nothing else lead to the same
table. -/
theorem resolution_of_alike {folding : CaseFolding} (folds : folding ≠ .preserve)
    {nodes nodes' : List FromNode}
    (sources : List.Forall₂ (FromNode.Alike AsciiAlike) nodes nodes')
    {columns columns' : List ProjectedColumn}
    (projection : List.Forall₂ (ProjectedColumn.Alike AsciiAlike) columns columns')
    {name name' : String} (looked : AsciiAlike name name') :
    Correlations.ofNodes folding nodes = Correlations.ofNodes folding nodes' ∧
    Origins.ofColumns folding columns = Origins.ofColumns folding columns' ∧
    (∀ (aliases origins : NameMap String) (defaultTable : String),
      resolveTable folding aliases origins defaultTable name =
        resolveTable folding aliases origins defaultTable name') ∧
    ∀ (resource resource' : Resource) (wildcards wildcards' : List String),
      resource.table = resource'.table →
        (ofShape resource folding ⟨nodes, columns, wildcards⟩).tableOf name =
          (ofShape resource' folding ⟨nodes', columns', wildcards'⟩).tableOf name' := by
  have same (s t : String) (alike : AsciiAlike s t) : folding.fold s = folding.fold t :=
    CaseFolding.fold_of_alike folds alike
  have correlations := Correlations.ofNodes_congr same sources
  have origins := Origins.ofColumns_congr same projection
  refine ⟨correlations, origins, resolveTable_congr (same _ _ looked), ?_⟩
  intro resource resource' wildcards wildcards' tables
  simp only [tableOf, ofShape, correlations, origins, tables]
  exact resolveTable_congr (same _ _ looked) _ _ _

/-- Two spellings of one name, whose sigma ends it after a letter of either case. -/
theorem resolution_of_sigma :
    let resource : Resource := { name := "films", query := "", table := "film" }
    let capitals := ofShape resource .lower ⟨[.base "FILMΣ" (some "F")], [⟨"NOΣ", some "F"⟩], []⟩
    let smalls := ofShape resource .lower ⟨[.base "filmΣ" (some "f")], [⟨"noΣ", some "f"⟩], []⟩
    capitals.tableOf "NOΣ" = smalls.tableOf "noΣ" ∧ smalls.tableOf "noΣ" = "filmς" := by
  intro resource capitals smalls
  have tables : AsciiAlike "FILMΣ" "filmΣ" := by decide +kernel
  have aliases : AsciiAlike "F" "f" := by decide +kernel
  have names : AsciiAlike "NOΣ" "noΣ" := by decide +kernel
  have column : ProjectedColumn.Alike AsciiAlike ⟨"NOΣ", some "F"⟩ ⟨"noΣ", some "f"⟩ :=
    ⟨names, .some aliases⟩
  have folds : CaseFolding.lower ≠ .preserve := by decide
  have same := resolution_of_alike folds (.cons (.base tables (.some aliases)) .nil)
    (.cons column .nil) names
  exact ⟨same.2.2.2 resource resource [] [] rfl, by decide +kernel⟩

end Resolver

end ColumnOrigin
