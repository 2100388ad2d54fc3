import ColumnOrigin.Proofs.Catalog.DefaultTable
import ColumnOrigin.Proofs.Catalog.Isolation
import Mathlib.Order.Bounds.Defs

/-!
# The tables that generated SQL may write

A result lists each table that has a writable column once, at the place of the first such column:
columns of it that may not be written do not count, wherever they stand. The list grows column by
column (`writableTables_concat`), and by that each of its tables has a first place, in the order of
the list (`exists_places`).
-/

namespace ColumnOrigin

/-- The column at place `i` may be written, and its table is this one. -/
def WritesAt (columns : List Column) (table : String) (i : Nat) : Prop :=
  ∃ c, columns[i]? = some c ∧ c.isWritable ∧ c.qualifiedTableName = table

namespace Assembled
variable {columns : List Column} {diagnostics : List Diagnostic} {c : Column} {table : String}
variable {i : Nat}

theorem mem_writableTables :
    table ∈ (Assembled.mk columns diagnostics).writableTables ↔ ∃ i, WritesAt columns table i := by
  rw [writableTables, List.mem_eraseDups, List.mem_map]
  constructor
  · rintro ⟨c, member, called⟩
    obtain ⟨listed, writable⟩ := List.mem_filter.mp member
    obtain ⟨i, here⟩ := List.mem_iff_getElem?.mp listed
    exact ⟨i, c, here, writable, called⟩
  · rintro ⟨i, c, here, writable, called⟩
    exact ⟨c, List.mem_filter.mpr ⟨List.mem_of_getElem? here, writable⟩, called⟩

/-- The next column adds its table, if it may be written and the table is new. -/
theorem writableTables_concat (columns : List Column) (diagnostics : List Diagnostic)
    (c : Column) :
    (Assembled.mk (columns ++ [c]) diagnostics).writableTables =
      (Assembled.mk columns diagnostics).writableTables ++
        if c.isWritable ∧
            c.qualifiedTableName ∉ (Assembled.mk columns diagnostics).writableTables then
          [c.qualifiedTableName] else [] := by
  simp only [writableTables, List.filter_append, List.map_append, List.eraseDups_append,
    List.mem_eraseDups, List.append_cancel_left_eq]
  cases writable : c.isWritable with
  | false => simp [writable]
  | true =>
    by_cases listed : c.qualifiedTableName ∈
        (columns.filter Column.isWritable).map (·.qualifiedTableName)
    · simp [writable, listed, List.removeAll]
    · simp [writable, listed, List.removeAll, List.eraseDups_cons]

/-! ## The first place of a table -/

theorem writesAt_lt (writes : WritesAt columns table i) : i < columns.length := by
  obtain ⟨c, here, -⟩ := writes
  exact (List.getElem?_eq_some_iff.mp here).1

theorem writesAt_concat :
    WritesAt (columns ++ [c]) table i ↔
      WritesAt columns table i ∨
        i = columns.length ∧ c.isWritable ∧ c.qualifiedTableName = table := by
  obtain before | rfl | beyond := Nat.lt_trichotomy i columns.length
  · simp [WritesAt, List.getElem?_append_left before, before.ne]
  · simp [WritesAt]
  · have nothing : ¬ WritesAt (columns ++ [c]) table i := fun writes => by
      have within := writesAt_lt writes
      rw [List.length_append, List.length_singleton] at within
      omega
    simp [nothing, mt writesAt_lt beyond.not_gt, beyond.ne']

/-- A first place stays one when columns come after it. -/
theorem isLeast_writesAt_concat (first : IsLeast {i | WritesAt columns table i} i) :
    IsLeast {i | WritesAt (columns ++ [c]) table i} i := by
  refine ⟨writesAt_concat.mpr (.inl first.1), fun j later => ?_⟩
  rcases writesAt_concat.mp later with earlier | ⟨rfl, -⟩
  · exact first.2 earlier
  · exact (writesAt_lt first.1).le

/-- The place of the next column is the first of its table, if the table is new. -/
theorem isLeast_writesAt_length (writable : c.isWritable)
    (new : c.qualifiedTableName ∉ (Assembled.mk columns diagnostics).writableTables) :
    IsLeast {i | WritesAt (columns ++ [c]) c.qualifiedTableName i} columns.length := by
  refine ⟨writesAt_concat.mpr (.inr ⟨rfl, writable, rfl⟩), fun j writes => ?_⟩
  rcases writesAt_concat.mp writes with earlier | ⟨rfl, -⟩
  · exact absurd (mem_writableTables.mpr ⟨j, earlier⟩) new
  · exact le_rfl

/-- The tables are listed in the order of their first places. -/
theorem exists_places (columns : List Column) (diagnostics : List Diagnostic) :
    ∃ places : List Nat, places.Pairwise (· < ·) ∧
      List.Forall₂ (fun i table => IsLeast {i | WritesAt columns table i} i) places
        (Assembled.mk columns diagnostics).writableTables := by
  induction columns using List.reverseRecOn with
  | nil => exact ⟨[], .nil, .nil⟩
  | append_singleton columns c ih =>
    obtain ⟨places, ordered, first⟩ := ih
    have kept : List.Forall₂ (fun i table => IsLeast {i | WritesAt (columns ++ [c]) table i} i)
        places (Assembled.mk columns diagnostics).writableTables :=
      first.imp fun _ _ least => isLeast_writesAt_concat least
    rw [writableTables_concat]
    split
    case isTrue new =>
      refine ⟨places ++ [columns.length], ?_, List.rel_append kept ?_⟩
      · rw [List.pairwise_append]
        refine ⟨ordered, List.pairwise_singleton _ _, fun i member j last => ?_⟩
        obtain ⟨table, -, least⟩ := Assembly.exists_of_forall₂ first member
        rw [List.mem_singleton.mp last]
        exact writesAt_lt least.1
      · exact .cons (isLeast_writesAt_length new.1 new.2) .nil
    case isFalse =>
      rw [List.append_nil]
      exact ⟨places, ordered, kept⟩

end Assembled

namespace Assembly

/-- At place `i` the driver's column `d` came out as `c`, and it may be written: it is not read-only
to the driver, and no sequence fills it. -/
structure WritableAt (drivers : List DriverColumn) (columns : List Column) (i : Nat)
    (d : DriverColumn) (c : Column) : Prop where
  driver : drivers[i]? = some d
  column : columns[i]? = some c
  notReadOnly : d.readOnly = false
  notSequence : c.sequence = false

section
variable {σ : Type} (adapter : CatalogAdapter (StateM σ)) (dialect : Dialect)
variable (resource : Resource) (resolver : Resolver) (drivers : List DriverColumn) (s : σ)

/-- What the driver and the catalog say decides whether a column is written. -/
theorem writesAt_iff (table : String) (i : Nat) :
    let columns := ((assemble adapter dialect resource resolver drivers).run s).1.columns
    WritesAt columns table i ↔
      ∃ d c, WritableAt drivers columns i d c ∧ c.qualifiedTableName = table := by
  intro columns
  have readOnly {d : DriverColumn} {c : Column} (hd : drivers[i]? = some d)
      (hc : columns[i]? = some c) : c.readOnly = d.readOnly :=
    congrArg Column.readOnly (bare_of_column adapter dialect resource resolver s hd hc)
  constructor
  · rintro ⟨c, hc, writable, called⟩
    obtain ⟨d, hd⟩ := exists_driver adapter dialect resource resolver s hc
    rw [Column.isWritable, Bool.and_eq_true, Bool.not_eq_true', Bool.not_eq_true',
      readOnly hd hc] at writable
    exact ⟨d, c, ⟨hd, hc, writable.1, writable.2⟩, called⟩
  · rintro ⟨d, c, ⟨hd, hc, notReadOnly, notSequence⟩, called⟩
    refine ⟨c, hc, ?_, called⟩
    rw [Column.isWritable, readOnly hd hc, notReadOnly, notSequence]
    rfl

/-- **The tables to write.** Whatever the catalog answers, a table is listed exactly if it is the
table of a column that the driver lets be written and no sequence fills. The list has no
repetitions, and its order is that of the first such columns. Two such columns stand behind one
entry exactly if they are attributed to one table. -/
theorem writable_tables_of_run :
    let run := ((assemble adapter dialect resource resolver drivers).run s).1
    let written (table : String) (i : Nat) : Prop :=
      ∃ d c, WritableAt drivers run.columns i d c ∧ c.qualifiedTableName = table
    run.writableTables.Nodup ∧
    (∀ table, table ∈ run.writableTables ↔ ∃ i, written table i) ∧
    (∃ places : List Nat, places.Pairwise (· < ·) ∧
      List.Forall₂ (fun i table => IsLeast {i | written table i} i) places run.writableTables) ∧
    ∀ i j x y c c', WritableAt drivers run.columns i x c →
      WritableAt drivers run.columns j y c' →
      ∃ k l : Nat, run.writableTables[k]? = some c.qualifiedTableName ∧
        run.writableTables[l]? = some c'.qualifiedTableName ∧
        (k = l ↔ resolver.tableOf x.name = resolver.tableOf y.name) := by
  intro run written
  have writes (table : String) (i : Nat) : WritesAt run.columns table i ↔ written table i :=
    writesAt_iff adapter dialect resource resolver drivers s table i
  have distinct : run.writableTables.Nodup := nodup_eraseDups _
  have listed (table : String) : table ∈ run.writableTables ↔ ∃ i, written table i := by
    rw [← exists_congr (writes table)]
    exact Assembled.mem_writableTables
  refine ⟨distinct, listed, ?_, ?_⟩
  · obtain ⟨places, ordered, first⟩ := Assembled.exists_places run.columns run.diagnostics
    refine ⟨places, ordered, first.imp fun i table least => ?_⟩
    simpa only [writes] using least
  · intro i j x y c c' first second
    obtain ⟨k, hk⟩ := List.mem_iff_getElem?.mp ((listed _).mpr ⟨i, x, c, first, rfl⟩)
    obtain ⟨l, hl⟩ := List.mem_iff_getElem?.mp ((listed _).mpr ⟨j, y, c', second, rfl⟩)
    refine ⟨k, l, hk, hl, ?_⟩
    have within : k < run.writableTables.length := (List.getElem?_eq_some_iff.mp hk).1
    have name := congrArg Column.qualifiedTableName
      (bare_of_column adapter dialect resource resolver s first.driver first.column)
    have name' := congrArg Column.qualifiedTableName
      (bare_of_column adapter dialect resource resolver s second.driver second.column)
    calc k = l
        ↔ c.qualifiedTableName = c'.qualifiedTableName := by
          rw [← List.getElem?_inj within distinct, hk, hl, Option.some.injEq]
      _ ↔ dialect.qualifiedTableName resource.database (resolver.tableOf x.name) =
          dialect.qualifiedTableName resource.database (resolver.tableOf y.name) :=
          Eq.congr name name'
      _ ↔ resolver.tableOf x.name = resolver.tableOf y.name :=
          -- One run has one schema.
          dialect.qualifiedTableName_inj resource.database

end

/-- A sequence fills the first column of the films, and so the languages are listed before them. -/
theorem writable_tables_films :
    let drivers := [filmId, language, title]
    let run := ((assemble filmStore.counted .postgres films (.ofResource .postgres films)
      drivers).run 0).1
    let written (table : String) (i : Nat) : Prop :=
      ∃ d c, WritableAt drivers run.columns i d c ∧ c.qualifiedTableName = table
    run.columns.map (·.qualifiedTableName) = ["public.film", "public.language", "public.film"] ∧
    run.writableTables = ["public.language", "public.film"] ∧
    ∃ i j, i < j ∧ IsLeast {i | written "public.language" i} i ∧
      IsLeast {i | written "public.film" i} j := by
  intro drivers run written
  obtain ⟨-, -, ⟨places, ordered, first⟩, -⟩ := writable_tables_of_run filmStore.counted .postgres
    films (.ofResource .postgres films) drivers 0
  obtain ⟨named, tables⟩ : run.columns.map (·.qualifiedTableName) =
      ["public.film", "public.language", "public.film"] ∧
      run.writableTables = ["public.language", "public.film"] := by
    simp only [run, ofResource_films]
    decide +kernel
  refine ⟨named, tables, ?_⟩
  change List.Forall₂ _ places run.writableTables at first
  rw [tables] at first
  obtain ⟨i, _, language, later, rfl⟩ := List.forall₂_cons_right_iff.mp first
  obtain ⟨j, _, film, -, rfl⟩ := List.forall₂_cons_right_iff.mp later
  exact ⟨i, j, List.rel_of_pairwise_cons ordered List.mem_cons_self, language, film⟩

end Assembly

end ColumnOrigin
