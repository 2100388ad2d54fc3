import ColumnOrigin.Proofs.Query.Correlations
import ColumnOrigin.Proofs.Query.Projection
import ColumnOrigin.Query.Resolver

/-!
# A resource whose query is one plain SELECT

`tableOf_of_selects` says what the analysis of such a resource answers for every column, in terms
of the column's last projected occurrence and of the correlations of the FROM clause.
-/

namespace ColumnOrigin

namespace Sql

/-- The query is the plain SELECT `s`, in any number of parentheses and without a WITH clause. -/
inductive Query.IsSelect (s : Select) : Query → Prop
  | select : Query.IsSelect s (.select false s)
  | parenthesised {inner : Query} : Query.IsSelect s inner →
      Query.IsSelect s (.parenthesised false inner)

theorem shape_of_isSelect {s : Select} {q : Query} (h : q.IsSelect s) : q.shape = .ok s.shape := by
  induction h with
  | select => rfl
  | parenthesised _ ih => simpa [Query.shape] using ih

/-- What the names in the FROM clause stand for. -/
def Select.correlations (folding : CaseFolding) (s : Select) : Correlations :=
  .ofNodes folding s.shape.sources

end Sql

/-- The resource's query text is one statement, which is the plain SELECT `s`. -/
def Resource.Selects (resource : Resource) (dialect : Dialect) (s : Sql.Select) : Prop :=
  ∃ q, Sql.parse (.ofDatabase dialect.database) resource.query = .ok [.query q] ∧ q.IsSelect s

namespace Resolver
variable {dialect : Dialect} {resource : Resource} {s : Sql.Select}

theorem ofResource_of_shape {shape : Shape}
    (h : shapeOf dialect.database resource.query = .ok shape) :
    ofResource dialect resource = ofShape resource dialect.caseFolding shape := by
  rw [ofResource, h]

theorem ofResource_of_selects (h : resource.Selects dialect s) :
    ofResource dialect resource = ofShape resource dialect.caseFolding s.shape := by
  obtain ⟨q, parses, plain⟩ := h
  have shape : shapeOf dialect.database resource.query = .ok s.shape := by
    simp only [shapeOf, parses, Shape.ofStatements, Sql.shape_of_isSelect plain]
  exact ofResource_of_shape shape

/-- A column belongs to the default table unless its last projected occurrence has a qualifier
that no unsupported construct declares. Then it belongs to what the qualifier stands for. -/
theorem tableOf_of_selects (h : resource.Selects dialect s) (column : String) :
    (ofResource dialect resource).tableOf column =
      match s.qualifierOf? dialect.caseFolding column with
      | some qualifier =>
        let origin := dialect.caseFolding.fold qualifier
        if origin ∈ (s.correlations dialect.caseFolding).unresolved then resource.table
        else (s.correlations dialect.caseFolding).aliases[origin]?.getD origin
      | none => resource.table := by
  rw [ofResource_of_selects h, tableOf, resolveTable]
  simp only [ofShape, Origins.getElem?_without, Origins.origin_of_column]
  cases s.qualifierOf? dialect.caseFolding column with
  | none => rfl
  | some qualifier =>
    simp only [Option.map_some, Option.filter_some, Sql.Select.correlations,
      ← Std.ExtTreeSet.contains_iff_mem]
    cases (Correlations.ofNodes dialect.caseFolding s.shape.sources).unresolved.contains
        (dialect.caseFolding.fold qualifier) <;> rfl

theorem unsupported_reported (h : resource.Selects dialect s) {d : Diagnostic}
    (hd : d ∈ (s.correlations dialect.caseFolding).diagnostics) :
    d.withContext resource.name ∈ (ofResource dialect resource).diagnostics := by
  rw [ofResource_of_selects h]
  apply List.mem_map_of_mem
  simp only [List.mem_append]
  exact Or.inl (Or.inl (Or.inl hd))

end Resolver

end ColumnOrigin
