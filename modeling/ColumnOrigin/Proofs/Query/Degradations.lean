import ColumnOrigin.Proofs.Query.Dangling
import Mathlib.Data.List.Sort

/-!
# What the analysis of a query gives up

Each thing that the analysis of a plain SELECT gives up leaves one diagnostic, and nothing else
does. `diagnostics_of_selects` lists them: unsupported constructs in order of visit, repeated names
in order of projection, undeclared qualifiers in their own order, and qualified wildcards.
-/

namespace ColumnOrigin

/-- A diagnostic about a part of a resource's query. -/
def Resource.notice (resource : Resource) (code : DiagnosticCode) (severity : Severity)
    (subject message : String) : Diagnostic where
  code
  severity
  message
  context := some resource.name
  subject := some subject

namespace Sql

/-- The names of a projection as the database sees them, for the items that have one. -/
def Select.names (folding : CaseFolding) (s : Select) : List String :=
  (s.projection.filterMap (·.outputName?)).map folding.fold

/-- The last parts of the qualifiers of `t.*` items. -/
def Select.unexpanded (s : Select) : List String :=
  s.projection.filterMap fun
    | .qualifiedWildcard parts => parts.getLast?
    | _ => none

theorem names_of_columns (folding : CaseFolding) (s : Select) :
    (s.shape.columns.map fun c => folding.fold c.name) = s.names folding := by
  have named : s.shape.columns.map (·.name) = s.projection.filterMap (·.outputName?) := by
    rw [Select.shape, List.map_filterMap]
    refine List.filterMap_congr fun item _ => ?_
    rw [column_eq, Option.map_map]
    exact Option.map_id'
  rw [Select.names, ← named, List.map_map]
  rfl

theorem wildcards_of_shape (s : Select) : s.shape.qualifiedWildcards = s.unexpanded := by
  refine List.filterMap_congr fun item _ => ?_
  cases item <;> rfl

end Sql

namespace Resolver
variable {dialect : Dialect} {resource : Resource} {s : Sql.Select}

/-- What is left of the origins is not unresolved, so the second look at that never matters. -/
theorem mem_danglingOrigins_without (aliases origins : NameMap String) (unresolved : NameSet)
    (origin : String) :
    origin ∈ danglingOrigins aliases (Origins.without origins unresolved) unresolved ↔
      ¬ aliases.isEmpty ∧ (∃ k : String, (Origins.without origins unresolved)[k]? = some origin) ∧
        origin ∉ aliases := by
  rw [mem_danglingOrigins, ← Option.not_isSome_iff_eq_none,
    Std.ExtTreeMap.isSome_getElem?_iff_mem]
  constructor
  · rintro ⟨present, entry, undeclared, _⟩
    exact ⟨present, entry, undeclared⟩
  · rintro ⟨present, ⟨k, hk⟩, undeclared⟩
    have resolved := hk
    rw [Origins.getElem?_without, Option.filter_eq_some_iff, Bool.not_eq_true',
      ← Bool.not_eq_true, Std.ExtTreeSet.contains_iff_mem] at resolved
    exact ⟨present, ⟨k, hk⟩, undeclared, resolved.2⟩

theorem pairwise_danglingOrigins (aliases origins : NameMap String) (unresolved : NameSet) :
    (danglingOrigins aliases origins unresolved).Pairwise (· < ·) := by
  rw [danglingOrigins]
  split
  · exact .nil
  · exact NameSet.pairwise_toList _

/-- What is given up on the way to a shape's origins is never an error. -/
theorem mild_ofShape (resource : Resource) (folding : CaseFolding) (shape : Shape) :
    ∀ d ∈ (ofShape resource folding shape).diagnostics,
      d.context = some resource.name ∧ d.severity ≠ .error := by
  intro d hd
  simp only [ofShape, Correlations.diagnostics_ofNodes, Origins.diagnostics_ofColumns,
    List.map_append, List.map_map, List.mem_append, List.mem_map] at hd
  obtain ((⟨_, -, rfl⟩ | ⟨_, -, rfl⟩) | ⟨_, -, rfl⟩) | ⟨_, -, rfl⟩ := hd <;>
    exact ⟨rfl, nofun⟩

/-- **The diagnostics of a plain SELECT are what its analysis gives up, in order**: the unsupported
leaves of the FROM clause, item by item and from the right within an item; the projected names that
have been projected before; if there are aliases, the origins left at the end that are none of
them, each once and sorted; the qualified wildcards. All are about the resource, and none is an
error. -/
theorem diagnostics_of_selects (h : resource.Selects dialect s) :
    let folding := dialect.caseFolding
    let resolver := ofResource dialect resource
    ∃ dangling : List String,
      dangling.Pairwise (· < ·) ∧
      (∀ origin, origin ∈ dangling ↔ ¬ resolver.aliases.isEmpty ∧
        (∃ k : String, resolver.origins[k]? = some origin) ∧ origin ∉ resolver.aliases) ∧
      resolver.diagnostics =
        ((FromNode.visits s.shape.sources).filterMap (·.kind?)).map (fun kind =>
          resource.notice .sqlUnsupportedFrom .warn kind
            ("Unsupported " ++ kind ++
              " in FROM clause; its columns resolve to the default table")) ++
        (repeats (s.names folding)).map (fun name =>
          resource.notice .sqlAmbiguousProjection .warn name
            ("Column '" ++ name ++
              "' is projected more than once; the last occurrence is used")) ++
        dangling.map (fun origin =>
          resource.notice .sqlDanglingCorrelation .info origin
            ("Qualifier '" ++ origin ++ "' is not declared in the FROM clause; " ++
              "used as a table name")) ++
        s.unexpanded.map (fun qualifier =>
          resource.notice .sqlUnsupportedSyntax .warn (folding.fold qualifier)
            ("Wildcard '" ++ qualifier ++ ".*' is not expanded; " ++
              "its columns resolve to the default table")) ∧
      ∀ d ∈ resolver.diagnostics, d.context = some resource.name ∧ d.severity ≠ .error := by
  intro folding resolver
  have analysed : resolver = ofShape resource folding s.shape := ofResource_of_selects h
  rw [analysed]
  refine ⟨danglingOrigins _ _ _, pairwise_danglingOrigins _ _ _,
    mem_danglingOrigins_without _ _ _, ?_, mild_ofShape resource folding s.shape⟩
  simp only [ofShape, Correlations.diagnostics_ofNodes, Origins.diagnostics_ofColumns,
    Sql.names_of_columns, Sql.wildcards_of_shape, List.map_append, List.map_map]
  rfl

/-- Something of each kind is given up: two constructs in one item, a repeated name, two undeclared
qualifiers beside one that is declared in a subquery, and a qualified wildcard. -/
def spoilt : Resource where
  name := "spoilt"
  query := "SELECT f.title, l.name AS Title, y.a, x.b, d.c, f.* FROM film f " ++
    "LEFT JOIN (SELECT 1) d ON 1 = 1 LEFT JOIN UNNEST(z) u ON 1 = 1, language l"
  table := "film"

def spoiltSelect : Sql.Select where
  projection := [.unnamed (.column ["f", "title"]), .aliased (.column ["l", "name"]) "Title",
    .unnamed (.column ["y", "a"]), .unnamed (.column ["x", "b"]), .unnamed (.column ["d", "c"]),
    .qualifiedWildcard ["f"]]
  sources := [
    .join (.join (.single (.table ["film"] false (some "f"))) .leftOuter (.derived (some "d")))
      .leftOuter (.other .unnest (some "u")),
    .single (.table ["language"] false (some "l"))]

theorem diagnostics_spoilt :
    spoilt.Selects .oracle spoiltSelect ∧
      (ofResource .oracle spoilt).diagnostics.map (fun d => (d.code, d.severity, d.subject)) = [
        (.sqlUnsupportedFrom, .warn, some "unnest"),
        (.sqlUnsupportedFrom, .warn, some "derived table"),
        (.sqlAmbiguousProjection, .warn, some "TITLE"),
        (.sqlDanglingCorrelation, .info, some "X"), (.sqlDanglingCorrelation, .info, some "Y"),
        (.sqlUnsupportedSyntax, .warn, some "F")] := by
  have selects : spoilt.Selects .oracle spoiltSelect := ⟨_, by decide +kernel, .select⟩
  obtain ⟨dangling, sorted, members, listed, -⟩ := diagnostics_of_selects selects
  rw [ofResource_of_selects selects] at members listed
  have present : ¬ (ofShape spoilt .upper spoiltSelect.shape).aliases.isEmpty := by
    decide +kernel
  have undeclared : (ofShape spoilt .upper spoiltSelect.shape).origins.values.filter
      (· ∉ (ofShape spoilt .upper spoiltSelect.shape).aliases) = ["Y", "X"] := by
    decide +kernel
  have both : dangling = ["X", "Y"] := by
    refine sorted.eq_of_mem_iff (by decide) fun origin => ?_
    have member : origin ∈ dangling ↔ origin ∈ ["Y", "X"] := by
      rw [members, ← undeclared, List.mem_filter, NameMap.mem_values, decide_eq_true_iff]
      exact and_iff_right present
    rw [member, List.mem_pair, List.mem_pair, or_comm]
  refine ⟨selects, ?_⟩
  rw [ofResource_of_selects selects, listed, both]
  decide +kernel

end Resolver

end ColumnOrigin
