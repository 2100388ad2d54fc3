import ColumnOrigin.Encoding.Config
import ColumnOrigin.Proofs.Names
import Mathlib.Data.List.Nodup
import Mathlib.Tactic.Tauto

/-!
# Valid configurations

A configuration that is read from a text has been checked: its resources have distinct names, so
each of them is found under its own. A check that fails is about the first resource with a fault
(`validate_finds_first_fault`).
-/

namespace ColumnOrigin.Config
variable {c : Config}

/-- A check lets through what has distinct names, none of them seen before, and no blank table. -/
theorem checkResources_eq_ok_iff {seen : NameSet} {resources : List Resource} :
    checkResources seen resources = .ok () ↔
      (resources.map (·.name)).Nodup ∧ (∀ r ∈ resources, r.name ∉ seen) ∧
        ∀ r ∈ resources, Text.isAllBlank r.table = false := by
  induction resources generalizing seen with
  | nil => simp [checkResources]
  | cons r rest ih =>
    -- From here on the name of `r` counts as seen, so the rest has to avoid it.
    have unseen : (∀ x ∈ rest, x.name ∉ seen.insert r.name) ↔
        r.name ∉ rest.map (·.name) ∧ ∀ x ∈ rest, x.name ∉ seen := by
      simp only [Std.ExtTreeSet.mem_insert, Std.compare_eq_iff_eq, not_or, imp_and, forall_and,
        List.mem_map, not_exists, not_and, @eq_comm _ r.name]
    rw [checkResources, List.map_cons, List.nodup_cons, List.forall_mem_cons,
      List.forall_mem_cons]
    by_cases known : r.name ∈ seen
    · simp [known]
    · by_cases blank : Text.isAllBlank r.table = true
      · simp [known, blank]
      · rw [if_neg (by simpa using known), if_neg blank, ih, unseen]
        simp only [known, blank, not_false_eq_true, true_and]
        tauto

theorem validate_eq_ok_iff :
    c.validate = .ok () ↔
      (c.resources.map (·.name)).Nodup ∧ ∀ r ∈ c.resources, Text.isAllBlank r.table = false := by
  simp [validate, checkResources_eq_ok_iff]

theorem validate_default : (default : Config).validate = .ok () := rfl

theorem validate_of_ofToml {text : String} (read : ofToml text = .ok c) :
    c.validate = .ok () := by
  rw [ofToml] at read
  split at read
  next c' _ =>
    cases valid : c'.validate with
    | error e =>
      rw [valid] at read
      cases read
    | ok _ =>
      rw [valid] at read
      cases read
      exact valid
  next => cases read

theorem ofFile_toUTF8 (text : String) : ofFile (.ok text.toUTF8) = ofToml text := by
  have decoded : String.fromUTF8? text.toUTF8 = some text := dif_pos text.isValidUTF8
  simp only [ofFile, decoded]

theorem validate_of_ofFile {content : Except FileFault ByteArray} (read : ofFile content = .ok c) :
    c.validate = .ok () := by
  cases content with
  | error fault => cases read
  | ok bytes =>
    simp only [ofFile] at read
    split at read
    · exact validate_of_ofToml read
    · cases read

/-- Each resource of a valid configuration is found under its name. -/
theorem resource?_name (valid : c.validate = .ok ()) {r : Resource} (hr : r ∈ c.resources) :
    c.resource? r.name = some r := by
  have distinct := (validate_eq_ok_iff.mp valid).1
  cases found : c.resource? r.name with
  | none => exact absurd (List.find?_eq_none.mp found r hr) (by simp)
  | some other =>
    have same : other.name = r.name := by simpa using List.find?_some found
    rw [List.inj_on_of_nodup_map distinct (List.mem_of_find?_eq_some found) hr same]

theorem resource?_eq_some_iff (valid : c.validate = .ok ()) {name : String} {r : Resource} :
    c.resource? name = some r ↔ r ∈ c.resources ∧ r.name = name := by
  constructor
  · intro found
    exact ⟨List.mem_of_find?_eq_some found, by simpa using List.find?_some found⟩
  · rintro ⟨member, rfl⟩
    exact resource?_name valid member

theorem resource?_eq_none_iff {name : String} :
    c.resource? name = none ↔ ∀ r ∈ c.resources, r.name ≠ name := by
  simp [resource?]

/-- A text that writes a configuration is read as that configuration if it is valid. -/
theorem ofToml_of_writes {text : String}
    (writes : (Toml.parse? text).bind (decoder .toml) = some c) :
    ofToml text = c.validate.map fun _ => c := by
  rw [ofToml, writes]
  change (c.validate >>= fun _ => .ok c) = _
  cases c.validate <;> rfl

/-! ## The first fault -/

/-- What is wrong with the resource at place `i`. A name that an earlier resource has is reported
even where the table is blank as well. -/
inductive FaultAt (resources : List Resource) (i : Nat) : ConfigError → Prop
  | duplicate (r : Resource) (here : resources[i]? = some r)
      (known : r.name ∈ (resources.take i).map (·.name)) : FaultAt resources i (.duplicateName r.name)
  | blank (r : Resource) (here : resources[i]? = some r)
      (new : r.name ∉ (resources.take i).map (·.name)) (blank : Text.isAllBlank r.table = true) :
      FaultAt resources i (.blankTable r.name)

theorem FaultAt.unique {resources : List Resource} {i : Nat} {e other : ConfigError}
    (fault : FaultAt resources i e) (fault' : FaultAt resources i other) : e = other := by
  cases fault with
  | duplicate r here known =>
    cases fault' with
    | duplicate s here' => rw [Option.some.inj (here.symm.trans here')]
    | blank s here' new =>
      cases Option.some.inj (here.symm.trans here')
      exact absurd known new
  | blank r here new =>
    cases fault' with
    | duplicate s here' known =>
      cases Option.some.inj (here.symm.trans here')
      exact absurd known new
    | blank s here' => rw [Option.some.inj (here.symm.trans here')]

/-- The first of the faults at place `n` or later. -/
def FirstFaultFrom (resources : List Resource) (n : Nat) (e : ConfigError) : Prop :=
  ∃ i, n ≤ i ∧ FaultAt resources i e ∧ ∀ j, n ≤ j → j < i → ∀ other, ¬ FaultAt resources j other

theorem firstFaultFrom_of_faultAt {resources : List Resource} {n : Nat} {e : ConfigError}
    (fault : FaultAt resources n e) (other : ConfigError) :
    FirstFaultFrom resources n other ↔ e = other := by
  constructor
  · rintro ⟨i, least, fault', first⟩
    rcases Nat.eq_or_lt_of_le least with rfl | later
    · exact fault.unique fault'
    · exact absurd fault (first n (Nat.le_refl n) later e)
  · rintro rfl
    exact ⟨n, Nat.le_refl n, fault, fun j least before => by omega⟩

theorem firstFaultFrom_succ {resources : List Resource} {n : Nat}
    (sound : ∀ e, ¬ FaultAt resources n e) (e : ConfigError) :
    FirstFaultFrom resources n e ↔ FirstFaultFrom resources (n + 1) e := by
  constructor
  · rintro ⟨i, least, fault, first⟩
    have later : n ≠ i := by
      rintro rfl
      exact sound e fault
    exact ⟨i, by omega, fault, fun j _ => first j (by omega)⟩
  · rintro ⟨i, least, fault, first⟩
    refine ⟨i, by omega, fault, fun j least' before => ?_⟩
    rcases Nat.eq_or_lt_of_le least' with rfl | later
    · exact sound
    · exact first j later before

/-- The names that count as seen are those of the resources before. -/
theorem checkResources_eq_error_iff (earlier rest : List Resource) (e : ConfigError) :
    checkResources (.ofNames (earlier.map (·.name))) rest = .error e ↔
      FirstFaultFrom (earlier ++ rest) earlier.length e := by
  induction rest generalizing earlier with
  | nil =>
    refine ⟨nofun, ?_⟩
    rintro ⟨i, least, fault, -⟩
    have past : (earlier ++ [])[i]? = none := by simpa using least
    cases fault <;> simp_all
  | cons r rest ih =>
    have here : (earlier ++ r :: rest)[earlier.length]? = some r := by simp
    have before : (earlier ++ r :: rest).take earlier.length = earlier := by simp
    rw [checkResources]
    by_cases known : r.name ∈ earlier.map (·.name)
    · rw [if_pos (by simpa [NameSet.mem_ofNames] using known), Except.error.injEq,
        firstFaultFrom_of_faultAt (.duplicate r here (by rwa [before]))]
    · rw [if_neg (by simpa [NameSet.mem_ofNames] using known)]
      by_cases blank : Text.isAllBlank r.table = true
      · rw [if_pos blank, Except.error.injEq,
          firstFaultFrom_of_faultAt (.blank r here (by rwa [before]) blank)]
      · have sound (other : ConfigError) :
            ¬ FaultAt (earlier ++ r :: rest) earlier.length other := by
          rintro (⟨s, here', known'⟩ | ⟨s, here', -, blank'⟩)
          · cases Option.some.inj (here.symm.trans here')
            exact known (before ▸ known')
          · cases Option.some.inj (here.symm.trans here')
            exact blank blank'
        have seen : (NameSet.ofNames (earlier.map (·.name))).insert r.name =
            NameSet.ofNames ((earlier ++ [r]).map (·.name)) := by
          simp [NameSet.ofNames]
        rw [if_neg blank, seen, ih, firstFaultFrom_succ sound, List.append_assoc,
          List.singleton_append, List.length_append, List.length_singleton]

/-- **A configuration is refused for its first fault.** It is valid exactly if its resources have
distinct names and none of their tables is blank. Otherwise the error is about the first resource
that has the name of an earlier one or a blank table, and it is about the name if that is known,
whatever the table is. A text that writes a configuration is read if the configuration is valid and
refused for the same fault otherwise; what is read finds each resource under its own name, and
nothing under other names. -/
theorem validate_finds_first_fault (c : Config) :
    (c.validate = .ok () ↔
      (c.resources.map (·.name)).Nodup ∧ ∀ r ∈ c.resources, Text.isAllBlank r.table = false) ∧
    (∀ e, c.validate = .error e ↔
      ∃ i, FaultAt c.resources i e ∧ ∀ j < i, ∀ other, ¬ FaultAt c.resources j other) ∧
    (∀ name, (ConfigError.duplicateName name).message =
        "Invalid resource '" ++ name ++ "': duplicate resource name" ∧
      (ConfigError.blankTable name).message =
        "Invalid resource '" ++ name ++ "': table must not be empty") ∧
    (∀ text, (Toml.parse? text).bind (decoder .toml) = some c →
      ofToml text = c.validate.map fun _ => c) ∧
    ∀ text, ofToml text = .ok c →
      c.validate = .ok () ∧ ∀ name,
        (∀ r, c.resource? name = some r ↔ r ∈ c.resources ∧ r.name = name) ∧
        (c.resource? name = none ↔ ∀ r ∈ c.resources, r.name ≠ name) := by
  refine ⟨validate_eq_ok_iff, ?_, fun _ => ⟨rfl, rfl⟩, fun _ => ofToml_of_writes, ?_⟩
  · intro e
    have fromStart := checkResources_eq_error_iff [] c.resources e
    simpa [FirstFaultFrom, validate, NameSet.ofNames] using fromStart
  · intro text read
    have valid := validate_of_ofToml read
    exact ⟨valid, fun name => ⟨fun r => resource?_eq_some_iff valid, resource?_eq_none_iff⟩⟩

/-! Films, actors, and films once more, in a blank table. Without the last, all is well. -/

def films : Resource := ⟨"films", "SELECT 1", "film", none⟩

def actors : Resource := ⟨"actors", "SELECT 2", "actor", none⟩

def filmsAgain : Resource := { films with table := " \u3000\t" }

def filmsText : String :=
  "[[resources]]\nname = \"films\"\nquery = \"SELECT 1\"\ntable = \"film\"\n" ++
  "[[resources]]\nname = \"actors\"\nquery = \"SELECT 2\"\ntable = \"actor\"\n"

theorem eq_ok_of_toOption {read : Except ConfigError Config} (found : read.toOption = some c) :
    read = .ok c := by
  cases read with
  | error e => cases found
  | ok d => exact congrArg _ (Option.some.inj found)

/-- The parts of a configuration that is read can be compared by evaluation. -/
theorem ofToml_of_parts {text : String}
    (parsed : (ofToml text).toOption.map
        (fun c => (c.database, c.severities.overrides, c.resources)) =
      some (c.database, c.severities.overrides, c.resources)) : ofToml text = .ok c := by
  obtain ⟨d, found, same⟩ := Option.map_eq_some_iff.mp parsed
  obtain ⟨database, ⟨overrides⟩, resources⟩ := c
  obtain ⟨database', ⟨overrides'⟩, resources'⟩ := d
  simp only [Prod.mk.injEq] at same
  obtain ⟨rfl, rfl, rfl⟩ := same
  exact eq_ok_of_toOption found

theorem ofToml_filmsText : ∃ c, ofToml filmsText = .ok c ∧ c.resources = [films, actors] := by
  have parsed : (ofToml filmsText).toOption.map (·.resources) = some [films, actors] := by
    decide +kernel
  obtain ⟨c, found, resources⟩ := Option.map_eq_some_iff.mp parsed
  exact ⟨c, eq_ok_of_toOption found, resources⟩

/-- The films that come again are reported by their name, not by their table. The text without them
is read, and its resources are found. -/
theorem first_fault_of_films :
    (Config.mk .ansi default [films, actors, filmsAgain]).validate =
      .error (.duplicateName "films") ∧
    ∃ c, ofToml filmsText = .ok c ∧ c.resource? "films" = some films ∧
      c.resource? "actors" = some actors ∧ c.resource? "film" = none := by
  obtain ⟨-, refused, -⟩ :=
    validate_finds_first_fault ⟨.ansi, default, [films, actors, filmsAgain]⟩
  have again : FaultAt [films, actors, filmsAgain] 2 (.duplicateName "films") :=
    .duplicate filmsAgain rfl (by decide)
  refine ⟨(refused _).mpr ⟨2, again, ?_⟩, ?_⟩
  · rintro (_ | _ | j) before other (⟨r, here, known⟩ | ⟨r, here, -, blank⟩)
    · simp at known
    · cases Option.some.inj here
      exact absurd blank (by decide)
    · cases Option.some.inj here
      exact absurd known (by decide)
    · cases Option.some.inj here
      exact absurd blank (by decide)
    all_goals omega
  · obtain ⟨c, read, resources⟩ := ofToml_filmsText
    obtain ⟨-, -, -, -, finds⟩ := validate_finds_first_fault c
    obtain ⟨-, byName⟩ := finds filmsText read
    refine ⟨c, read, ((byName _).1 _).mpr ?_, ((byName _).1 _).mpr ?_, (byName _).2.mpr ?_⟩ <;>
      simp [resources, films, actors]

end ColumnOrigin.Config
