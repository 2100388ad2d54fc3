import ColumnOrigin.Proofs.Query.Degradations
import Mathlib.Logic.Function.Iterate

/-!
# Queries that are not analysed

Only a text that is one plain SELECT has a shape, and parentheses around it do not change the shape.
Any other text leaves a resolver that knows nothing and says why in one diagnostic; that is an error
only where the text cannot be read at all: `fails_soft`.
-/

namespace ColumnOrigin

namespace Sql

theorem isSelect_iff {s : Select} {q : Query} :
    q.IsSelect s ↔ ∃ depth, q = (Query.parenthesised false)^[depth] (.select false s) := by
  constructor
  · intro plain
    induction plain with
    | select => exact ⟨0, rfl⟩
    | parenthesised _ ih =>
      obtain ⟨depth, rfl⟩ := ih
      exact ⟨depth + 1, (Function.iterate_succ_apply' _ _ _).symm⟩
  · rintro ⟨depth, rfl⟩
    induction depth with
    | zero => exact .select
    | succ depth ih =>
      rw [Function.iterate_succ_apply']
      exact .parenthesised ih

/-- A query that has a shape is a plain SELECT at every level of parentheses. -/
theorem isSelect_of_shape {q : Query} {shape : Shape} (h : q.shape = .ok shape) :
    ∃ s, q.IsSelect s ∧ s.shape = shape := by
  induction q with
  | select hasWith body =>
    cases hasWith with
    | false => exact ⟨body, .select, Except.ok.inj h⟩
    | true => cases h
  | parenthesised hasWith inner ih =>
    cases hasWith with
    | false =>
      obtain ⟨s, plain, same⟩ := ih h
      exact ⟨s, .parenthesised plain, same⟩
    | true => cases h
  | other hasWith => cases hasWith <;> cases h

end Sql

/-- The columns of a shape are the items that have a name, with the qualifiers of what they refer
to. -/
theorem Sql.Select.columns_shape (s : Sql.Select) :
    s.shape.columns = s.projection.filterMap fun item =>
      item.outputName?.map fun name => ⟨name, item.qualifier?⟩ := by
  rw [shape]
  exact List.filterMap_congr fun item _ => Sql.column_eq item

theorem Shape.query_of_statements {statements : List Sql.Statement} {shape : Shape}
    (h : ofStatements statements = .ok shape) :
    ∃ q, statements = [.query q] ∧ q.shape = .ok shape := by
  rw [ofStatements.eq_def] at h
  split at h
  · exact ⟨_, rfl, h⟩
  · cases h
  · cases h

theorem Shape.ofStatements_eq_ok_iff {statements : List Sql.Statement} {shape : Shape} :
    ofStatements statements = .ok shape ↔
      ∃ depth s, statements = [.query ((Sql.Query.parenthesised false)^[depth] (.select false s))] ∧
        s.shape = shape := by
  constructor
  · intro h
    obtain ⟨q, rfl, shaped⟩ := query_of_statements h
    obtain ⟨s, plain, same⟩ := Sql.isSelect_of_shape shaped
    obtain ⟨depth, rfl⟩ := Sql.isSelect_iff.mp plain
    exact ⟨depth, s, rfl, same⟩
  · rintro ⟨depth, s, rfl, rfl⟩
    exact Sql.shape_of_isSelect (Sql.isSelect_iff.mpr ⟨depth, rfl⟩)

namespace Resolver

/-- There are no names to look a column up under, for a reason that is given once, and every column
belongs to the default table. -/
structure KnowsNothing (resolver : Resolver) (resource : Resource) (code : DiagnosticCode)
    (severity : Severity) : Prop where
  aliases : resolver.aliases = ∅
  origins : resolver.origins = ∅
  reason : ∃ d, resolver.diagnostics = [d] ∧ d.code = code ∧ d.severity = severity ∧
    d.context = some resource.name
  tables : ∀ column, resolver.tableOf column = resource.table

theorem knowsNothing_unanalysed (resource : Resource) (folding : CaseFolding) (why : Diagnostic) :
    (unanalysed resource folding why).KnowsNothing resource why.code why.severity where
  aliases := rfl
  origins := rfl
  reason := ⟨_, rfl, rfl, rfl, rfl⟩
  tables _ := by simp [tableOf, resolveTable, unanalysed]

section
variable {dialect : Dialect} {resource : Resource}

theorem knowsNothing_of_unreadable {e : Sql.ParseError}
    (h : Sql.parse (.ofDatabase dialect.database) resource.query = .error e) :
    (ofResource dialect resource).KnowsNothing resource .sqlParseError .error := by
  simp only [ofResource, shapeOf, h]
  exact knowsNothing_unanalysed resource _ (parseFailure e)

theorem knowsNothing_of_unsupported {statements : List Sql.Statement} {u : Unsupported}
    (parses : Sql.parse (.ofDatabase dialect.database) resource.query = .ok statements)
    (refused : Shape.ofStatements statements = .error u) :
    (ofResource dialect resource).KnowsNothing resource .sqlUnsupportedSyntax .warn := by
  simp only [ofResource, shapeOf, parses, refused]
  exact knowsNothing_unanalysed resource _ u.diagnostic

theorem KnowsNothing.severity_eq {resolver : Resolver} {code : DiagnosticCode}
    {severity : Severity} (nothing : resolver.KnowsNothing resource code severity)
    {d : Diagnostic} (hd : d ∈ resolver.diagnostics) : d.severity = severity := by
  obtain ⟨only, same, -, built, -⟩ := nothing.reason
  rw [same, List.mem_singleton] at hd
  exact hd ▸ built

/-- An error is left by a text that cannot be read, and by no other. -/
theorem unreadable_of_error {d : Diagnostic} (hd : d ∈ (ofResource dialect resource).diagnostics)
    (grave : d.severity = .error) :
    ∃ e, Sql.parse (.ofDatabase dialect.database) resource.query = .error e := by
  cases parsed : Sql.parse (.ofDatabase dialect.database) resource.query with
  | error e => exact ⟨e, rfl⟩
  | ok statements =>
    cases shaped : Shape.ofStatements statements with
    | error u =>
      have mild := (knowsNothing_of_unsupported parsed shaped).severity_eq hd
      cases mild.symm.trans grave
    | ok shape =>
      simp only [ofResource, shapeOf, parsed, shaped] at hd
      exact absurd grave (mild_ofShape resource _ shape d hd).2

end

/-- **Single plain SELECTs are analysed, and everything else fails soft.** Statements have a shape
exactly when they are one query that is a SELECT inside some number of parentheses, with no WITH
clause at any level, and it is the shape of that SELECT: the items of its FROM clause, its named
columns and its qualified wildcards, in their order. A text that cannot be read leaves an error, one
without a shape a warning; either way nothing else is known. No other text leaves an error. -/
theorem fails_soft (dialect : Dialect) (resource : Resource) :
    let parsed := Sql.parse (.ofDatabase dialect.database) resource.query
    let resolver := ofResource dialect resource
    (∀ (statements : List Sql.Statement) (shape : Shape),
      Shape.ofStatements statements = .ok shape ↔
        ∃ depth s,
          statements = [.query ((Sql.Query.parenthesised false)^[depth] (.select false s))] ∧
            s.shape = shape ∧
            shape.sources = s.sources.map Sql.JoinChain.toNode ∧
            shape.columns = s.projection.filterMap (fun item =>
              item.outputName?.map fun name => ⟨name, item.qualifier?⟩) ∧
            shape.qualifiedWildcards = s.projection.filterMap Sql.SelectItem.wildcard?) ∧
    (∀ e, parsed = .error e → resolver.KnowsNothing resource .sqlParseError .error) ∧
    (∀ statements u, parsed = .ok statements → Shape.ofStatements statements = .error u →
      resolver.KnowsNothing resource .sqlUnsupportedSyntax .warn) ∧
    ((∃ d ∈ resolver.diagnostics, d.severity = .error) ↔ ∃ e, parsed = .error e) := by
  intro parsed resolver
  refine ⟨fun statements shape => ?_, fun _ => knowsNothing_of_unreadable,
    fun _ _ => knowsNothing_of_unsupported, ?_, ?_⟩
  · rw [Shape.ofStatements_eq_ok_iff]
    refine exists₂_congr fun depth s => and_congr_right fun _ => ?_
    constructor
    · rintro rfl
      exact ⟨rfl, rfl, s.columns_shape, rfl⟩
    · exact And.left
  · rintro ⟨d, hd, grave⟩
    exact unreadable_of_error hd grave
  · rintro ⟨e, unreadable⟩
    obtain ⟨d, only, -, grave, -⟩ := (knowsNothing_of_unreadable unreadable).reason
    exact ⟨d, only ▸ List.mem_singleton_self d, grave⟩

/-- The text ends where a table is missing. -/
def unfinished : Resource where
  name := "unfinished"
  query := "SELECT a.x FROM t1 a LEFT JOIN"
  table := "film"

/-- Within the parentheses stands a WITH clause. -/
def commonTable : Resource where
  name := "common"
  query := "((WITH c AS (SELECT 1 AS x) SELECT c.x FROM c))"
  table := "film"

/-- Items with a name and without, a wildcard among them, and joins of which one is looked into. -/
def mixedText : String :=
  "((SELECT f.title AS name, g.*, 1, s.f.year FROM s.film f LEFT JOIN g ON 1, a CROSS JOIN c))"

def mixedSelect : Sql.Select where
  projection := [.aliased (.column ["f", "title"]) "name", .qualifiedWildcard ["g"],
    .unnamed .computed, .unnamed (.column ["s", "f", "year"])]
  sources := [
    .join (.single (.table ["s", "film"] false (some "f"))) .leftOuter (.table ["g"] false none),
    .join (.single (.table ["a"] false none)) .cross (.table ["c"] false none)]

/-- A text that cannot be read, one without a shape, and SELECTs in two pairs of parentheses. -/
theorem fails_soft_unfinished :
    (ofResource .oracle unfinished).KnowsNothing unfinished .sqlParseError .error ∧
      (∃ d ∈ (ofResource .oracle unfinished).diagnostics, d.severity = .error) ∧
      (ofResource .oracle commonTable).KnowsNothing commonTable .sqlUnsupportedSyntax .warn ∧
      ¬ (∃ d ∈ (ofResource .oracle commonTable).diagnostics, d.severity = .error) ∧
      Shape.ofStatements [.query (.parenthesised false (.parenthesised false
        (.select false foreignSelect)))] = .ok foreignSelect.shape ∧
      Sql.parse .standard mixedText = .ok [.query (.parenthesised false (.parenthesised false
        (.select false mixedSelect)))] ∧
      Shape.ofStatements [.query (.parenthesised false (.parenthesised false
        (.select false mixedSelect)))] = .ok {
          sources := [.outerJoin (.base "film" (some "f")) (.base "g" none),
            .unsupported "cross join" ["a", "c"]]
          columns := [⟨"name", some "f"⟩, ⟨"year", some "f"⟩]
          qualifiedWildcards := ["g"] } := by
  have unreadable : Sql.parse .standard unfinished.query = .error .grammatical := by
    decide +kernel
  have readable : Sql.parse .standard commonTable.query =
      .ok [.query (.parenthesised false (.parenthesised false (.select true
        ⟨[.unnamed (.column ["c", "x"])], [.single (.table ["c"] false none)]⟩)))] := by
    decide +kernel
  obtain ⟨shapes, failing, -, grave⟩ := fails_soft .oracle unfinished
  obtain ⟨-, -, refusing, mild⟩ := fails_soft .oracle commonTable
  refine ⟨failing _ unreadable, grave.mpr ⟨_, unreadable⟩, refusing _ .commonTables readable rfl, ?_,
    (shapes _ _).mpr ⟨2, foreignSelect, rfl, rfl, rfl, rfl, rfl⟩, by decide +kernel,
    (shapes _ _).mpr ⟨2, mixedSelect, rfl, rfl, rfl, rfl, rfl⟩⟩
  intro error
  obtain ⟨e, failed⟩ := mild.mp error
  cases readable.symm.trans failed

end Resolver

end ColumnOrigin
