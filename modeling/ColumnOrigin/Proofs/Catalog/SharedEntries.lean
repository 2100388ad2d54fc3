import ColumnOrigin.Proofs.Catalog.SharedStore

/-!
# Tables that share an entry

A store knows a table by its qualified name, in which the dot after the schema looks like any other.
What is added for a table is therefore seen for all tables of that name and for no others
(`StoreWrite.apply_about`, `Handles.answers?_withAdded`), and distinct tables have one name exactly
where one of them is the other, cut at another dot (`TableIdentifier.same_qualifiedName_iff`).
-/

namespace ColumnOrigin

/-! ## One name, cut at its dots -/

/-- The dot after the longer of two schemas stands in the table after the shorter one. -/
theorem cut_of_longer {schema table schema' table' : String} {more : List Char}
    (longer : schema'.toList = schema.toList ++ more)
    (left : '.' :: table.toList = more ++ '.' :: table'.toList) :
    (schema = schema' ∧ table = table') ∨
      ∃ front, table = front ++ "." ++ table' ∧ schema' = schema ++ "." ++ front := by
  obtain ⟨rfl, same⟩ | ⟨front, rfl, later⟩ := List.cons_eq_append_iff.mp left
  · refine .inl ⟨?_, ?_⟩
    · rw [← String.toList_inj, longer, List.append_nil]
    · rw [← String.toList_inj, (List.cons.inj same).2]
  · refine .inr ⟨String.ofList front, ?_, ?_⟩
    · simp [← String.toList_inj, later]
    · simp [← String.toList_inj, longer]

/-- The ways to cut one text at a dot. -/
theorem dotted_eq_iff {schema table schema' table' : String} :
    schema ++ "." ++ table = schema' ++ "." ++ table' ↔
      (schema = schema' ∧ table = table') ∨
      (∃ front, table = front ++ "." ++ table' ∧ schema' = schema ++ "." ++ front) ∨
      ∃ front, table' = front ++ "." ++ table ∧ schema = schema' ++ "." ++ front := by
  constructor
  · intro same
    have chars : schema.toList ++ '.' :: table.toList = schema'.toList ++ '.' :: table'.toList := by
      simpa using congrArg String.toList same
    obtain ⟨more, longer, left⟩ | ⟨more, longer, left⟩ := List.append_eq_append_iff.mp chars
    · exact (cut_of_longer longer left).imp_right .inl
    · obtain ⟨rfl, rfl⟩ | cut := cut_of_longer longer left
      · exact .inl ⟨rfl, rfl⟩
      · exact .inr (.inr cut)
  · rintro (⟨rfl, rfl⟩ | ⟨front, rfl, rfl⟩ | ⟨front, rfl, rfl⟩)
    · rfl
    · simp only [String.append_assoc]
    · simp only [String.append_assoc]

namespace TableIdentifier

/-- A dot within the table of `t`, taken for the one after the schema, gives `other`. -/
def CutsTo (t other : TableIdentifier) : Prop :=
  ∃ front, t.table = front ++ "." ++ other.table ∧
    other.schema = some (TableIdentifier.mk t.schema front).qualifiedName

/-- Tables of one name are one table or cuts of one another. -/
theorem same_qualifiedName_iff (a b : TableIdentifier) :
    a.qualifiedName = b.qualifiedName ↔ a = b ∨ a.CutsTo b ∨ b.CutsTo a := by
  obtain ⟨schema, table⟩ := a
  obtain ⟨schema', table'⟩ := b
  cases schema with
  | none =>
    cases schema' with
    | none => simp [qualifiedName, CutsTo]
    | some schema' => simp [qualifiedName, CutsTo]
  | some schema =>
    cases schema' with
    | none => simp [qualifiedName, CutsTo, eq_comm]
    | some schema' => simp [qualifiedName, CutsTo, dotted_eq_iff]

theorem CutsTo.dot_mem {t other : TableIdentifier} (cut : t.CutsTo other) :
    '.' ∈ t.table.toList := by
  obtain ⟨front, table, -⟩ := cut
  simp [table]

end TableIdentifier

/-! ## What is added and what is answered -/

namespace StoreWrite

/-- The same, added for another table. -/
def about (t : TableIdentifier) : StoreWrite → StoreWrite
  | .table _ stored => .table t stored
  | .error _ e => .error t e

/-- Tables of one name have one entry. -/
theorem apply_about {w : StoreWrite} {t : TableIdentifier}
    (same : t.qualifiedName = w.target.qualifiedName) : (w.about t).apply = w.apply := by
  funext s
  cases w with
  | table t' stored => simp only [about, apply, CatalogStore.addTable, same, target]
  | error t' e => simp only [about, apply, CatalogStore.addError, same, target]

end StoreWrite

/-- All that a store answers about a table. -/
structure TableAnswers where
  hasTable : Bool
  columns : Except FetchError (List CatalogColumn)
  primaryKeys : Except FetchError (List String)
deriving Repr, DecidableEq

namespace CatalogStore

def answers (s : CatalogStore) (t : TableIdentifier) : TableAnswers :=
  ⟨s.hasTable t, s.fetchColumns t, s.fetchPrimaryKeys t⟩

/-- A store does not tell tables of one name apart. -/
theorem answers_congr {t u : TableIdentifier} (same : t.qualifiedName = u.qualifiedName)
    (s : CatalogStore) : s.answers t = s.answers u := by
  simp only [answers, hasTable, fetchColumns, fetchPrimaryKeys, lookup, same]

/-- **One addition.** Tables of other names are answered for as before. -/
theorem answers_apply_of_apart {w : StoreWrite} {t : TableIdentifier}
    (apart : w.target.qualifiedName ≠ t.qualifiedName) (s : CatalogStore) :
    (w.apply s).answers t = s.answers t := by
  simp only [answers, fetchColumns, fetchPrimaryKeys, lookup_apply_of_apart s apart,
    hasTable_apply_of_apart s apart]

end CatalogStore

namespace Handles
variable {h : Handles} {t : TableIdentifier}

/-- All that is answered about a table through a handle. -/
def answers? (h : Handles) (reader : String) (t : TableIdentifier) : Option TableAnswers :=
  (h.view? reader).map fun seen => seen.2.answers t

/-- The handles after additions through them, the latest first. -/
def withAdded (h : Handles) (additions : List (String × StoreWrite)) : Handles :=
  additions.foldr (fun e h => h.modifyStore e.1 e.2.apply) h

/-- A change of one store that keeps what it answers about a table keeps what all handles answer. -/
theorem answers?_modifyStore {f : CatalogStore → CatalogStore}
    (keeps : ∀ s, (f s).answers t = s.answers t) (writer reader : String) :
    (h.modifyStore writer f).answers? reader t = h.answers? reader t := by
  cases found : h.handles[writer]? with
  | none => rw [modifyStore_of_none found]
  | some handle =>
    rw [modifyStore_of_some found, answers?, answers?, view?, view?]
    cases h.handles[reader]? with
    | none => rfl
    | some own =>
      simp only [Option.bind_eq_bind, Option.bind_some, List.getElem?_modify]
      cases h.stores[own.group]? with
      | none => rfl
      | some s =>
        change some ((if handle.group = own.group then f s else s).answers t) = some (s.answers t)
        split
        · rw [keeps s]
        · rfl

/-- Nothing that is added for tables of other names, through whichever handles, is ever seen. -/
theorem answers?_withAdded {additions : List (String × StoreWrite)}
    (apart : ∀ e ∈ additions, e.2.target.qualifiedName ≠ t.qualifiedName) (reader : String) :
    (h.withAdded additions).answers? reader t = h.answers? reader t := by
  induction additions with
  | nil => rfl
  | cons e before ih =>
    obtain ⟨here, earlier⟩ := List.forall_mem_cons.mp apart
    calc (h.withAdded (e :: before)).answers? reader t
        = (h.withAdded before).answers? reader t :=
          answers?_modifyStore (CatalogStore.answers_apply_of_apart here) e.1 reader
      _ = h.answers? reader t := ih earlier

theorem answers?_introduce (name : String) (c : MemoryCatalog) (t : TableIdentifier) :
    (h.introduce name c).answers? name t = some (c.store.answers t) := by
  simp [answers?, view?, introduce]

theorem answers?_added (name : String) (c : MemoryCatalog) (w : StoreWrite)
    (t : TableIdentifier) :
    ((h.introduce name c).withAdded [(name, w)]).answers? name t =
      some ((w.apply c.store).answers t) := by
  simp [answers?, view?, introduce, withAdded, modifyStore]

/-- **Tables have entries of their own exactly as far as their names differ.** What is added for a
table, through any handles and in any number, is never seen for a table of another name, and it is
as good as added for every table of the same name. Distinct tables have one name exactly if a dot
within the table of one is the dot after the schema of the other, so never where neither table has a
dot in it. -/
theorem entries_apart_iff (a b : TableIdentifier) :
    ((∀ (h : Handles) (additions : List (String × StoreWrite)),
        (∀ e ∈ additions, e.2.target = a) →
        ∀ reader, (h.withAdded additions).answers? reader b = h.answers? reader b) ↔
      a.qualifiedName ≠ b.qualifiedName) ∧
    (a.qualifiedName = b.qualifiedName →
      (∀ w : StoreWrite, w.target = a → (w.about b).apply = w.apply) ∧
        ∀ s : CatalogStore, s.answers a = s.answers b) ∧
    (a.qualifiedName = b.qualifiedName ↔ a = b ∨ a.CutsTo b ∨ b.CutsTo a) ∧
    ('.' ∉ a.table.toList → '.' ∉ b.table.toList →
      a.qualifiedName = b.qualifiedName → a = b) := by
  refine ⟨⟨?_, ?_⟩, ?_, TableIdentifier.same_qualifiedName_iff a b, ?_⟩
  · -- In a new store no table is found before one is added.
    intro unseen same
    have own : ∀ e ∈ [("first", StoreWrite.table a ⟨[], []⟩)], e.2.target = a := by
      simp [StoreWrite.target]
    have kept := unseen (none.introduce "first" {}) _ own "first"
    rw [answers?_added, answers?_introduce, Option.some.injEq] at kept
    have found : (CatalogStore.empty.addTable a ⟨[], []⟩).hasTable b =
        CatalogStore.empty.hasTable b := congrArg TableAnswers.hasTable kept
    simp [CatalogStore.hasTable, CatalogStore.addTable, CatalogStore.empty, same] at found
  · intro apart h additions own reader
    exact answers?_withAdded (fun e member => own e member ▸ apart) reader
  · intro same
    refine ⟨?_, CatalogStore.answers_congr same⟩
    rintro w rfl
    exact StoreWrite.apply_about same.symm
  · intro undotted undotted' same
    obtain equal | cut | cut := (TableIdentifier.same_qualifiedName_iff a b).mp same
    · exact equal
    · exact absurd cut.dot_mem undotted
    · exact absurd cut.dot_mem undotted'

end Handles

/-- An empty schema is kept apart from none, but not from a dot before the table. -/
theorem entries_apart_schemaless :
    let film : TableIdentifier := ⟨none, "film"⟩
    let schemaless : TableIdentifier := ⟨some "", "film"⟩
    let dotFirst : TableIdentifier := ⟨none, ".film"⟩
    let first := Handles.none.introduce "first" {}
    (first.withAdded [("first", .table film ⟨[], ["film_id"]⟩),
      ("first", .error film (.network "down"))]).answers? "first" schemaless =
        first.answers? "first" schemaless ∧
      dotFirst ≠ schemaless ∧ ∀ s : CatalogStore, s.answers dotFirst = s.answers schemaless := by
  intro film schemaless dotFirst first
  obtain ⟨apart, -⟩ := Handles.entries_apart_iff film schemaless
  obtain ⟨-, shared, -⟩ := Handles.entries_apart_iff dotFirst schemaless
  refine ⟨apart.mpr (by decide) first _ ?_ "first", by decide, (shared (by decide)).2⟩
  simp [StoreWrite.target]

/-- A table is added whose name has a dot, and it is found as another table in a schema. So is an
error for it. -/
theorem dotted_table_shared :
    let dotted : TableIdentifier := ⟨none, "sakila.film"⟩
    let film : TableIdentifier := ⟨some "sakila", "film"⟩
    let first := Handles.none.introduce "first" {}
    let missing : FetchError := .tableNotFound "sakila.film"
    let refused : FetchError := .permissionDenied "no grant"
    dotted ≠ film ∧
      first.answers? "first" film = some ⟨false, .error missing, .error missing⟩ ∧
      (first.withAdded [("first", .table dotted ⟨[], ["film_id"]⟩)]).answers? "first" film =
        some ⟨true, .ok [], .ok ["film_id"]⟩ ∧
      (first.withAdded [("first", .error dotted refused)]).answers? "first" film =
        some ⟨false, .error refused, .error refused⟩ := by
  decide +kernel

end ColumnOrigin
