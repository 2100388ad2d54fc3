import ColumnOrigin.Proofs.Catalog.Writes

/-!
# Handles that share a store

What a handle answers is told from the history of all handles alone, without the stores and their
numbers. A history lists what was done to the handles, the latest first. Each handle descends from
the one that its catalog was built for, and the handles of one catalog are a group:

* `descent?`: the catalog that a handle belongs to, and the settings changed on the way to it;
* `writesTo`: what was added to a catalog, through whichever of its handles;
* `agrees_after`: handles and stores are at all times what the history says, by what one operation
  does to them (`Agrees.build`, `Agrees.derive`, `Agrees.write`);
* `view_of_apart`, `view_onlyTo`: what other catalogs are given makes no difference.

Questions change nothing and are no part of a history: they are asked after it.
-/

namespace ColumnOrigin

/-- What can be done with handles. -/
inductive HandleOperation where
  /-- A handle to a new catalog, put together by steps, the latest first. -/
  | build (name : String) (steps : List BuilderStep)
  /-- A clone of a handle, or a changed one under the same or another name. -/
  | derive (name source : String) (change : Option SettingChange)
  | write (name : String) (w : StoreWrite)
deriving Repr, DecidableEq

namespace HandleOperation

def apply : HandleOperation → Handles → Handles
  | .build name steps, h => h.introduce name (.build steps)
  | .derive name source change, h => h.derive name source (change.elim id SettingChange.apply)
  | .write name w, h => h.modifyStore name w.apply

/-- The name that stands for a new handle afterwards. -/
def bound? : HandleOperation → Option String
  | .build name _ => some name
  | .derive name _ _ => some name
  | .write _ _ => none

/-- The handle that something is added through. -/
def writer? : HandleOperation → Option String
  | .write name _ => some name
  | _ => none

end HandleOperation

/-- A builder's step, taken later through a handle to what was built. A change of settings takes the
handle's place. -/
def BuilderStep.through (name : String) : BuilderStep → HandleOperation
  | .write w => .write name w
  | .setting change => .derive name name (some change)

/-- The handles after a history. -/
def Handles.after (history : List HandleOperation) : Handles :=
  history.foldr HandleOperation.apply .none

/-! ## What a history says -/

/-- How many catalogs have been built. -/
def catalogs : List HandleOperation → Nat
  | [] => 0
  | .build _ _ :: before => catalogs before + 1
  | .derive _ _ _ :: before => catalogs before
  | .write _ _ :: before => catalogs before

/-- Where a handle comes from. -/
structure Descent where
  /-- How many catalogs were built before the handle's own. -/
  catalog : Nat
  /-- The changes on the way to the handle, the latest first. -/
  changes : List SettingChange
deriving Repr, DecidableEq

/-- The descent of a handle. Without a source there is nothing to derive. -/
def descent? : List HandleOperation → String → Option Descent
  | [], _ => none
  | .build bound steps :: before, name =>
    if bound = name then some ⟨catalogs before, steps.filterMap (·.change?)⟩
    else descent? before name
  | .derive bound source change :: before, name =>
    match descent? before source with
    | some d =>
      if bound = name then some { d with changes := change.toList ++ d.changes }
      else descent? before name
    | none => descent? before name
  | .write _ _ :: before, name => descent? before name

/-- The catalog that a handle belongs to. -/
def catalog? (history : List HandleOperation) (name : String) : Option Nat :=
  (descent? history name).map (·.catalog)

/-- What has been added to a catalog, the latest first. -/
def writesTo (g : Nat) : List HandleOperation → List StoreWrite
  | [] => []
  | .build _ steps :: before =>
    if catalogs before = g then steps.filterMap (·.write?) else writesTo g before
  | .derive _ _ _ :: before => writesTo g before
  | .write name w :: before =>
    if catalog? before name = some g then w :: writesTo g before else writesTo g before

/-- A history without what was added to other catalogs than `g`, when they were built or later. -/
def onlyTo (g : Nat) : List HandleOperation → List HandleOperation
  | [] => []
  | .build name steps :: before =>
    .build name (if catalogs before = g then steps else steps.filter (·.change?.isSome)) ::
      onlyTo g before
  | .derive name source change :: before => .derive name source change :: onlyTo g before
  | .write name w :: before =>
    if catalog? before name = some g then .write name w :: onlyTo g before else onlyTo g before

theorem catalog_lt {history : List HandleOperation} {name : String} {d : Descent}
    (h : descent? history name = some d) : d.catalog < catalogs history := by
  induction history generalizing name d with
  | nil => cases h
  | cons op before ih =>
    cases op with
    | build bound steps =>
      rw [descent?] at h
      rw [catalogs]
      split at h
      · cases h
        exact Nat.lt_succ_self _
      · exact Nat.lt_succ_of_lt (ih h)
    | derive bound source change =>
      rw [descent?] at h
      cases found : descent? before source with
      | none =>
        rw [found] at h
        exact ih h
      | some origin =>
        simp only [found] at h
        split at h
        · cases h
          exact (ih found : origin.catalog < catalogs before)
        · exact ih h
    | write writer w => exact ih h

/-! ## The handles agree with it -/

namespace Handles

/-- Handles and stores are what the history says. -/
structure Agrees (h : Handles) (history : List HandleOperation) : Prop where
  handles_eq : ∀ name, h.handles[name]? =
    (descent? history name).map fun d => ⟨d.catalog, .afterChanges d.changes⟩
  stores_eq : h.stores =
    (List.range (catalogs history)).map fun g => .afterWrites (writesTo g history)

variable {h : Handles} {history : List HandleOperation}

theorem derive_of_some {name source : String} {handle : Handle}
    (found : h.handles[source]? = some handle) (f : HandleSettings → HandleSettings) :
    h.derive name source f =
      { h with handles := h.handles.insert name { handle with settings := f handle.settings } } := by
  simp only [derive, found]

theorem derive_of_none {name source : String} (unknown : h.handles[source]? = Option.none)
    (f : HandleSettings → HandleSettings) : h.derive name source f = h := by
  simp only [derive, unknown]

theorem modifyStore_of_some {name : String} {handle : Handle}
    (found : h.handles[name]? = some handle) (f : CatalogStore → CatalogStore) :
    h.modifyStore name f = { h with stores := h.stores.modify handle.group f } := by
  simp only [modifyStore, found]

theorem modifyStore_of_none {name : String} (unknown : h.handles[name]? = Option.none)
    (f : CatalogStore → CatalogStore) : h.modifyStore name f = h := by
  simp only [modifyStore, unknown]

theorem agrees_none : none.Agrees [] where
  handles_eq name := by simp [none, descent?]
  stores_eq := rfl

theorem Agrees.length_stores (agrees : h.Agrees history) : h.stores.length = catalogs history := by
  rw [agrees.stores_eq, List.length_map, List.length_range]

theorem Agrees.build (agrees : h.Agrees history) (name : String) (steps : List BuilderStep) :
    (h.introduce name (.build steps)).Agrees (.build name steps :: history) where
  handles_eq other := by
    rw [introduce, NameMap.getElem?_insert, descent?, MemoryCatalog.build_eq,
      agrees.length_stores, agrees.handles_eq]
    split <;> rfl
  stores_eq := by
    have earlier : h.stores = (List.range (catalogs history)).map fun g =>
        .afterWrites (writesTo g (.build name steps :: history)) := by
      rw [agrees.stores_eq]
      refine List.map_congr_left fun g hg => ?_
      rw [writesTo, if_neg (List.mem_range.mp hg).ne']
    simp only [introduce, earlier, MemoryCatalog.build_eq, catalogs, List.range_succ,
      List.map_append, List.map_singleton, writesTo, if_true]

theorem Agrees.derive (agrees : h.Agrees history) (name source : String)
    (change : Option SettingChange) :
    (h.derive name source (change.elim id SettingChange.apply)).Agrees
      (.derive name source change :: history) := by
  have known := agrees.handles_eq source
  cases found : descent? history source with
  | none =>
    rw [found, Option.map_none] at known
    rw [derive_of_none known]
    refine ⟨fun other => ?_, agrees.stores_eq⟩
    simp only [descent?, found, agrees.handles_eq]
  | some d =>
    rw [found, Option.map_some] at known
    rw [derive_of_some known]
    refine ⟨fun other => ?_, agrees.stores_eq⟩
    simp only [descent?, found, NameMap.getElem?_insert, agrees.handles_eq]
    split
    · cases change <;> rfl
    · rfl

theorem Agrees.write (agrees : h.Agrees history) (name : String) (w : StoreWrite) :
    (h.modifyStore name w.apply).Agrees (.write name w :: history) := by
  have known := agrees.handles_eq name
  cases found : descent? history name with
  | none =>
    rw [found, Option.map_none] at known
    rw [modifyStore_of_none known]
    refine ⟨agrees.handles_eq, ?_⟩
    simp only [writesTo, catalog?, found, catalogs, agrees.stores_eq, Option.map_none,
      reduceCtorEq, if_false]
  | some d =>
    rw [found, Option.map_some] at known
    rw [modifyStore_of_some known]
    refine ⟨agrees.handles_eq, ?_⟩
    refine List.ext_getElem (by simp [agrees.length_stores, catalogs]) fun g _ _ => ?_
    simp only [List.getElem_modify, agrees.stores_eq, List.getElem_map, List.getElem_range,
      writesTo, catalog?, found, Option.map_some, Option.some.injEq]
    split <;> rfl

theorem agrees_after (history : List HandleOperation) : (after history).Agrees history := by
  induction history with
  | nil => exact agrees_none
  | cons op before ih =>
    cases op with
    | build name steps => exact ih.build name steps
    | derive name source change => exact ih.derive name source change
    | write name w => exact ih.write name w

theorem view_after (history : List HandleOperation) (name : String) :
    (after history).view? name = (descent? history name).map fun d =>
      (.afterChanges d.changes, .afterWrites (writesTo d.catalog history)) := by
  have agrees := agrees_after history
  rw [view?, agrees.handles_eq]
  cases found : descent? history name with
  | none => rfl
  | some d => simp [agrees.stores_eq, List.getElem?_range (catalog_lt found)]

/-! ## What leaves a handle alone -/

theorem descent_of_unbound {op : HandleOperation} {name : String} (unbound : op.bound? ≠ some name)
    (history : List HandleOperation) : descent? (op :: history) name = descent? history name := by
  cases op with
  | build bound steps => rw [descent?, if_neg fun same => unbound (congrArg some same)]
  | derive bound source change =>
    rw [descent?]
    split
    · rw [if_neg fun same => unbound (congrArg some same)]
    · rfl
  | write writer w => rfl

theorem writesTo_of_apart {op : HandleOperation} {name : String} {d : Descent}
    (known : descent? history name = some d)
    (apart : ∀ writer, op.writer? = some writer → catalog? history writer ≠ some d.catalog) :
    writesTo d.catalog (op :: history) = writesTo d.catalog history := by
  cases op with
  | build bound steps => rw [writesTo, if_neg (catalog_lt known).ne']
  | derive bound source change => rfl
  | write writer w => rw [writesTo, if_neg (apart writer rfl)]

/-- A handle is as before if no other takes its name and nothing is added to its catalog. -/
theorem view_of_apart {op : HandleOperation} {name : String} (unbound : op.bound? ≠ some name)
    (apart : ∀ writer, op.writer? = some writer →
      catalog? history writer ≠ catalog? history name) :
    (after (op :: history)).view? name = (after history).view? name := by
  rw [view_after, view_after, descent_of_unbound unbound]
  cases known : descent? history name with
  | none => rfl
  | some d =>
    rw [catalog?, known] at apart
    rw [Option.map_some, Option.map_some, writesTo_of_apart known apart]

/-! ## Without the other catalogs -/

@[simp] theorem catalogs_onlyTo (g : Nat) (history : List HandleOperation) :
    catalogs (onlyTo g history) = catalogs history := by
  induction history with
  | nil => rfl
  | cons op before ih =>
    cases op with
    | build bound steps => simp only [onlyTo, catalogs, ih]
    | derive bound source change => exact ih
    | write writer w =>
      rw [onlyTo]
      split <;> exact ih

@[simp] theorem descent_onlyTo (g : Nat) (history : List HandleOperation) (name : String) :
    descent? (onlyTo g history) name = descent? history name := by
  induction history generalizing name with
  | nil => rfl
  | cons op before ih =>
    cases op with
    | build bound steps =>
      have settings : (if catalogs before = g then steps
          else steps.filter (·.change?.isSome)).filterMap (·.change?) =
            steps.filterMap (·.change?) := by
        split
        · rfl
        · rw [List.filterMap_filter]
          exact List.filterMap_congr fun step _ => by cases step <;> rfl
      simp only [onlyTo, descent?, catalogs_onlyTo, settings, ih]
    | derive bound source change => simp only [onlyTo, descent?, ih]
    | write writer w =>
      rw [onlyTo]
      split <;> exact ih name

theorem writesTo_onlyTo (g : Nat) (history : List HandleOperation) :
    writesTo g (onlyTo g history) = writesTo g history := by
  induction history with
  | nil => rfl
  | cons op before ih =>
    cases op with
    | build bound steps =>
      simp only [onlyTo, writesTo, catalogs_onlyTo, ih]
      split <;> rfl
    | derive bound source change => exact ih
    | write writer w =>
      by_cases own : catalog? before writer = some g
      · have kept : catalog? (onlyTo g before) writer = some g := by
          rw [catalog?, descent_onlyTo, ← catalog?, own]
        rw [onlyTo, if_pos own, writesTo, if_pos kept, writesTo, if_pos own, ih]
      · rw [onlyTo, if_neg own, writesTo, if_neg own, ih]

/-- A handle answers as if nothing had been added to other catalogs. -/
theorem view_onlyTo {history : List HandleOperation} {name : String} {g : Nat}
    (member : catalog? history name = some g) :
    (after (onlyTo g history)).view? name = (after history).view? name := by
  obtain ⟨d, known, rfl⟩ := Option.map_eq_some_iff.mp member
  rw [view_after, view_after, descent_onlyTo, known, Option.map_some, Option.map_some,
    writesTo_onlyTo]

/-! ## Building step by step -/

theorem apply_through (h : Handles) (name : String) (step : BuilderStep)
    (before : List BuilderStep) :
    (step.through name).apply (h.introduce name (.build before)) =
      h.introduce name (.build (step :: before)) := by
  have known : (h.introduce name (.build before)).handles[name]? =
      some ⟨h.stores.length, (MemoryCatalog.build before).settings⟩ := by
    simp [introduce]
  have built : MemoryCatalog.build (step :: before) = step.apply (.build before) := rfl
  cases step with
  | write w =>
    rw [BuilderStep.through, HandleOperation.apply, modifyStore_of_some known, built,
      BuilderStep.apply_write]
    simp [introduce, List.modify_eq_take_drop]
  | setting change =>
    rw [BuilderStep.through, HandleOperation.apply, derive_of_some known, built,
      BuilderStep.apply_setting]
    simp [introduce, NameMap.insert_insert]

/-- A catalog that is put together by steps is a new one on which they were taken later. -/
theorem after_through (name : String) (steps : List BuilderStep)
    (history : List HandleOperation) :
    after (steps.map (·.through name) ++ .build name [] :: history) =
      after (.build name steps :: history) := by
  induction steps with
  | nil => rfl
  | cons step before ih =>
    calc after ((step :: before).map (·.through name) ++ .build name [] :: history)
        = (step.through name).apply
            (after (before.map (·.through name) ++ .build name [] :: history)) := rfl
      _ = (step.through name).apply ((after history).introduce name (.build before)) := by
          rw [ih]
          rfl
      _ = after (.build name (step :: before) :: history) := apply_through _ name step before

/-- **Handles share a store exactly within their group.** Through any handle, at any time, a table is
answered for with the latest error, else the latest rows that were added to the handle's catalog by
any of its handles, and else is not found; which tables there are and how many is told by what was
added, whatever the errors. The name and the connection are as the handle's own settings say. No
operation on other catalogs changes what a handle sees, and all that is added to them can be left out
of the history. And a catalog put together by steps is the same as a new one on which the steps are
taken through its handle. -/
theorem handles_share_stores (history : List HandleOperation) :
    (∀ name d, descent? history name = some d →
      ∃ settings store, (after history).view? name = some (settings, store) ∧
        settings.Reflects d.changes ∧ store.Reflects (writesTo d.catalog history)) ∧
      (∀ op name, op.bound? ≠ some name →
        (∀ writer, op.writer? = some writer →
          catalog? history writer ≠ catalog? history name) →
        (after (op :: history)).view? name = (after history).view? name) ∧
      (∀ name g, catalog? history name = some g →
        (after (onlyTo g history)).view? name = (after history).view? name) ∧
      ∀ name steps, after (.build name steps :: history) =
        after (steps.map (·.through name) ++ .build name [] :: history) := by
  refine ⟨fun name d known => ?_, ?_, ?_, ?_⟩
  · exact ⟨.afterChanges d.changes, .afterWrites (writesTo d.catalog history),
      by rw [view_after, known, Option.map_some],
      HandleSettings.reflects_afterChanges d.changes,
      CatalogStore.reflects_afterWrites (writesTo d.catalog history)⟩
  · exact fun op name unbound apart => view_of_apart unbound apart
  · exact fun name g member => view_onlyTo member
  · exact fun name steps => (after_through name steps history).symm

end Handles

/-- A handle is cloned; rows are added through one of the two and an error for another table through
the other; then an unrelated catalog is built. The latest comes first. -/
def clonedHistory : List HandleOperation :=
  [.build "other" [.write (.error ⟨some "SAKILA", "FILM"⟩ (.query "no such view"))],
    .write "clone" (.error ⟨none, "ACTOR"⟩ (.permissionDenied "no grant")),
    .write "first" (.table ⟨some "SAKILA", "FILM"⟩ ⟨[], ["FILM_ID"]⟩),
    .derive "clone" "first" none,
    .build "first" [.setting (.rename "Oracle")]]

theorem clone_answers_for_both :
    (∃ settings store, (Handles.after clonedHistory).view? "clone" = some (settings, store) ∧
      settings.name = "Oracle" ∧ settings.testConnection = .ok () ∧
      store.fetchPrimaryKeys ⟨some "SAKILA", "FILM"⟩ = .ok ["FILM_ID"] ∧
      store.fetchColumns ⟨none, "ACTOR"⟩ = .error (.permissionDenied "no grant") ∧
      store.fetchColumns ⟨none, "FILM"⟩ = .error (.tableNotFound "FILM") ∧
      store.tableCount = 1) ∧
      (Handles.after (.write "other" (.table ⟨none, "FILM"⟩ ⟨[], []⟩) :: clonedHistory)).view?
        "clone" = (Handles.after clonedHistory).view? "clone" ∧
      (Handles.after (onlyTo 0 clonedHistory)).view? "clone" =
        (Handles.after clonedHistory).view? "clone" := by
  obtain ⟨answers, apart, alone, -⟩ := Handles.handles_share_stores clonedHistory
  refine ⟨?_, ?_, alone "clone" 0 rfl⟩
  · obtain ⟨settings, store, view, own, shared⟩ := answers "clone" ⟨0, [.rename "Oracle"]⟩ rfl
    refine ⟨settings, store, view, own.name_eq, own.testConnection_eq, ?_, ?_, ?_, ?_⟩
    · exact (shared.added ⟨some "SAKILA", "FILM"⟩ ⟨[], ["FILM_ID"]⟩ (by decide +kernel)
        (by decide +kernel)).2
    · exact (shared.configured ⟨none, "ACTOR"⟩ _ rfl).1
    · exact (shared.missing ⟨none, "FILM"⟩ (by decide +kernel) (by decide +kernel)).1
    · exact shared.tableCount_eq
  · refine apart _ "clone" (by decide) fun writer through => ?_
    cases through
    decide

end ColumnOrigin
