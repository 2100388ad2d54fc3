import ColumnOrigin.Proofs.Query.Resolver
import ColumnOrigin.Proofs.Text.Folding

/-!
# Names are folded once

Whatever the analysis of a query records is in folded form, so a lookup may fold its name any number
of times, and the tables that the origins lead to are read off the maps without folding:
`Resolver.folded_names`.
-/

namespace ColumnOrigin

/-- A fixed point of folding: one way to write a name stands for all. -/
def CaseFolding.IsFolded (folding : CaseFolding) (name : String) : Prop :=
  folding.fold name = name

theorem CaseFolding.isFolded_fold (folding : CaseFolding) (name : String) :
    folding.IsFolded (folding.fold name) :=
  folding.fold_fold name

/-- All names of the map are folded, and what they stand for. -/
def NameMap.IsFolded (folding : CaseFolding) (m : NameMap String) : Prop :=
  ∀ k v : String, m[k]? = some v → folding.IsFolded k ∧ folding.IsFolded v

def NameSet.IsFolded (folding : CaseFolding) (s : NameSet) : Prop :=
  ∀ name ∈ s, folding.IsFolded name

theorem NameMap.isFolded_empty (folding : CaseFolding) : NameMap.IsFolded folding ∅ := by
  intro k v h
  simp at h

namespace Correlations
variable (folding : CaseFolding) (nodes : List FromNode)

theorem isFolded_aliases : NameMap.IsFolded folding (ofNodes folding nodes).aliases := by
  intro k v h
  obtain ⟨t, _, rfl, rfl⟩ := baseTable_of_alias folding h
  exact ⟨folding.isFolded_fold _, folding.isFolded_fold _⟩

theorem isFolded_unresolved : NameSet.IsFolded folding (ofNodes folding nodes).unresolved := by
  intro k h
  obtain ⟨_, _, name, _, rfl⟩ := (mem_unresolved_ofNodes folding nodes k).mp h
  exact folding.isFolded_fold name

end Correlations

namespace Origins
variable (folding : CaseFolding)

theorem isFolded_ofColumns (columns : List ProjectedColumn) :
    NameMap.IsFolded folding (ofColumns folding columns).origins := by
  intro k v h
  rw [origins_ofColumns] at h
  obtain ⟨qualifier, last, rfl⟩ := Option.map_eq_some_iff.mp h
  obtain ⟨column, found, -⟩ := Option.bind_eq_some_iff.mp last
  rw [List.findRev?_eq_find?_reverse] at found
  have named : folding.fold column.name = k := by simpa using List.find?_some found
  exact ⟨named ▸ folding.isFolded_fold _, folding.isFolded_fold _⟩

theorem isFolded_without {folding : CaseFolding} {origins : NameMap String}
    (folded : NameMap.IsFolded folding origins) (names : NameSet) :
    NameMap.IsFolded folding (without origins names) := by
  intro k v h
  rw [getElem?_without, Option.filter_eq_some_iff] at h
  exact folded k v h.1

end Origins

namespace Resolver

/-- Both maps of the resolver are folded. -/
structure IsFolded (r : Resolver) : Prop where
  aliases : NameMap.IsFolded r.folding r.aliases
  origins : NameMap.IsFolded r.folding r.origins

theorem isFolded_ofShape (resource : Resource) (folding : CaseFolding) (shape : Shape) :
    (ofShape resource folding shape).IsFolded where
  aliases := Correlations.isFolded_aliases folding shape.sources
  origins := Origins.isFolded_without (Origins.isFolded_ofColumns folding shape.columns) _

theorem isFolded_unanalysed (resource : Resource) (folding : CaseFolding) (why : Diagnostic) :
    (unanalysed resource folding why).IsFolded :=
  ⟨NameMap.isFolded_empty folding, NameMap.isFolded_empty folding⟩

theorem isFolded_ofResource (dialect : Dialect) (resource : Resource) :
    (ofResource dialect resource).IsFolded := by
  rw [ofResource]
  split
  · exact isFolded_ofShape resource _ _
  · exact isFolded_unanalysed resource _ _

theorem folding_ofResource (dialect : Dialect) (resource : Resource) :
    (ofResource dialect resource).folding = dialect.caseFolding := by
  rw [ofResource]
  split <;> rfl

theorem defaultTable_ofResource (dialect : Dialect) (resource : Resource) :
    (ofResource dialect resource).defaultTable = resource.table := by
  rw [ofResource]
  split <;> rfl

theorem tableOf_fold (r : Resolver) (column : String) :
    r.tableOf (r.folding.fold column) = r.tableOf column := by
  rw [tableOf, tableOf, resolveTable, resolveTable, CaseFolding.fold_fold]

theorem tableOf_of_origin {r : Resolver} {column origin : String}
    (h : r.origins[r.folding.fold column]? = some origin) :
    r.tableOf column = r.aliases[origin]?.getD origin := by
  rw [tableOf, resolveTable, h]

theorem tableOf_of_no_origin {dialect : Dialect} {resource : Resource} {column : String}
    (unqualified : (ofResource dialect resource).origins[dialect.fold column]? = none) :
    (ofResource dialect resource).tableOf column = resource.table := by
  rw [tableOf, resolveTable, folding_ofResource, ← Dialect.fold, unqualified,
    defaultTable_ofResource]

/-- An entry of the origins is found under its own key. -/
theorem IsFolded.tableOf_of_key {r : Resolver} (folded : r.IsFolded) {k origin : String}
    (h : r.origins[k]? = some origin) : r.tableOf k = r.aliases[origin]?.getD origin := by
  have key : r.folding.fold k = k := (folded.origins k origin h).1
  exact tableOf_of_origin (key.symm ▸ h)

/-- A table that a qualifier leads to has a folded name. -/
theorem IsFolded.isFolded_tableOf {r : Resolver} (folded : r.IsFolded) {column origin : String}
    (h : r.origins[r.folding.fold column]? = some origin) :
    r.folding.IsFolded (r.tableOf column) := by
  rw [tableOf_of_origin h]
  cases entry : r.aliases[origin]? with
  | some table => exact (folded.aliases origin table entry).2
  | none => exact (folded.origins _ origin h).2

/-- **Names are folded once.** Folding is idempotent for every policy, on all texts. So the keys and
the values of both maps are fixed points, and the unresolved names too; a lookup does not tell a
name from its folded form, and it leads from an origin's key to the alias's table or to the origin
itself. -/
theorem folded_names (dialect : Dialect) (resource : Resource) :
    let resolver := ofResource dialect resource
    (∀ (folding : CaseFolding) (name : String),
      folding.fold (folding.fold name) = folding.fold name) ∧
    (∀ k v : String, resolver.aliases[k]? = some v → dialect.fold k = k ∧ dialect.fold v = v) ∧
    (∀ k v : String, resolver.origins[k]? = some v → dialect.fold k = k ∧ dialect.fold v = v) ∧
    (∀ shape, shapeOf dialect.database resource.query = .ok shape →
      ∀ name ∈ (Correlations.ofNodes dialect.caseFolding shape.sources).unresolved,
        dialect.fold name = name) ∧
    (∀ column, resolver.tableOf (dialect.fold column) = resolver.tableOf column) ∧
    (∀ k origin : String, resolver.origins[k]? = some origin →
      resolver.tableOf k = resolver.aliases[origin]?.getD origin) := by
  intro resolver
  have folded : resolver.IsFolded := isFolded_ofResource dialect resource
  have policy : resolver.folding = dialect.caseFolding := folding_ofResource dialect resource
  refine ⟨CaseFolding.fold_fold, ?_, ?_, ?_, ?_, ?_⟩
  · intro k v h
    have both := folded.aliases k v h
    rwa [policy] at both
  · intro k v h
    have both := folded.origins k v h
    rwa [policy] at both
  · exact fun shape _ => Correlations.isFolded_unresolved dialect.caseFolding shape.sources
  · intro column
    rw [Dialect.fold, ← policy]
    exact resolver.tableOf_fold column
  · exact fun k origin h => folded.tableOf_of_key h

/-- Written in capitals, kept in small letters: an alias, an origin and a name that a derived table
withholds. -/
theorem folded_names_capitals :
    let resource : Resource :=
      { name := "films", table := "FILM"
        query := "SELECT F.TITLE FROM FILM F, (SELECT 1) D" }
    let shape : Shape :=
      { sources := [.base "FILM" (some "F"), .unsupported "derived table" ["D"]]
        columns := [⟨"TITLE", some "F"⟩], qualifiedWildcards := [] }
    let resolver := ofResource .postgres resource
    shapeOf .postgres resource.query = .ok shape ∧
    resolver.aliases["f"]? = some "film" ∧ resolver.origins["title"]? = some "f" ∧
    "d" ∈ (Correlations.ofNodes .lower shape.sources).unresolved ∧
    (∀ name ∈ ["f", "film", "title", "d"], Dialect.postgres.fold name = name) ∧
    resolver.tableOf (Dialect.postgres.fold "Title") = resolver.tableOf "Title" ∧
    resolver.tableOf "title" = "film" := by
  intro resource shape resolver
  have found : shapeOf .postgres resource.query = .ok shape := by decide +kernel
  have analysed : resolver = ofShape resource .lower shape := ofResource_of_shape found
  have entry : resolver.aliases["f"]? = some "film" := by
    rw [analysed]
    decide +kernel
  have origin : resolver.origins["title"]? = some "f" := by
    rw [analysed]
    decide +kernel
  have withheld : "d" ∈ (Correlations.ofNodes .lower shape.sources).unresolved := by
    decide +kernel
  obtain ⟨-, aliases, origins, unresolved, stable, reached⟩ := folded_names .postgres resource
  refine ⟨found, entry, origin, withheld, ?_, stable "Title", ?_⟩
  · simp only [List.forall_mem_cons, List.not_mem_nil, false_implies, implies_true, and_true]
    exact ⟨(aliases _ _ entry).1, (aliases _ _ entry).2, (origins _ _ origin).1,
      unresolved shape found "d" withheld⟩
  · rw [reached _ _ origin, entry]
    rfl

end Resolver

end ColumnOrigin
