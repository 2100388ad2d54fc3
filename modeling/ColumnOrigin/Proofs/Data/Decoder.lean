import ColumnOrigin.Data.Decoder
import ColumnOrigin.Data.Json.Parser
import ColumnOrigin.Encoding.Names
import ColumnOrigin.Proofs.Json.Values
import ColumnOrigin.Proofs.Names

/-!
# Reading records back

What a decoder makes of a record that was written, field by field. The equations here are all that
the codec of a record type needs: with them, `simp` reads the record back.
-/

namespace ColumnOrigin
variable {α : Type} {format : Format}

namespace Value

@[simp] theorem field?_nil (name : String) : field? [] name = none := rfl

/-- A field counts unless a later one has its name. -/
@[simp] theorem field?_cons (f : String × Value) (fields : List (String × Value))
    (name : String) :
    field? (f :: fields) name =
      (field? fields name).or (if f.1 = name then some f.2 else none) := by
  by_cases same : f.1 = name
  · cases later : fields.reverse.find? (·.1 == name) <;>
      simp [field?, List.find?_append, same, later]
  · simp [field?, List.find?_append, same]

@[simp] theorem field?_append (fields later : List (String × Value)) (name : String) :
    field? (fields ++ later) name = (field? later name).or (field? fields name) := by
  induction fields with
  | nil => simp
  | cons f fields ih => simp [ih, Option.or_assoc]

@[simp] theorem field?_whenSome (key : String) (o : Option String) (name : String) :
    field? (whenSome key o) name = if key = name then o.map .string else none := by
  cases o <;> simp [whenSome]

/-- The names of the fields that are written. -/
def keys : Value → List String
  | .record fields => fields.map Prod.fst
  | _ => []

@[simp] theorem keys_record (fields : List (String × Value)) :
    (record fields).keys = fields.map Prod.fst :=
  rfl

@[simp] theorem mem_whenSome {name : String} {o : Option String} {f : String × Value} :
    f ∈ whenSome name o ↔ ∃ s, o = some s ∧ f = (name, .string s) := by
  cases o <;> simp [whenSome]

@[simp] theorem mem_keys_whenSome (key name : String) (o : Option String) :
    key ∈ (whenSome name o).map Prod.fst ↔ key = name ∧ o.isSome := by
  cases o <;> simp [whenSome]

@[simp] theorem inOnePlace_bool (b : Bool) : InOnePlace (.bool b) := .bool b

@[simp] theorem inOnePlace_natural (n : Nat) : InOnePlace (.natural n) := .natural n

@[simp] theorem inOnePlace_string (s : String) : InOnePlace (.string s) := .string s

@[simp] theorem inOnePlace_list (items : List Value) :
    InOnePlace (.list items) ↔ ∀ v ∈ items, InOnePlace v :=
  ⟨fun | .list all => all, .list⟩

@[simp] theorem inOnePlace_record (fields : List (String × Value)) :
    InOnePlace (.record fields) ↔ ∀ f ∈ fields, InOnePlace f.2 :=
  ⟨fun | .record all => all, .record⟩

@[simp] theorem inOnePlace_ofOption (o : Option String) : (ofOption o).InOnePlace := by
  cases o with
  | none => exact .null
  | some s => exact .string s

theorem inOnePlace_entries {encodeItem : α → Value} (whole : ∀ a, (encodeItem a).InOnePlace)
    (entries : List (String × α)) :
    (record (entries.map fun e => (e.1, encodeItem e.2))).InOnePlace := by
  rw [inOnePlace_record]
  intro f member
  obtain ⟨e, -, rfl⟩ := List.mem_map.mp member
  exact whole e.2

end Value

@[simp] theorem Presence.whenUnnamed_inRecord (absent : α) :
    (Presence.inRecord absent).whenUnnamed = some absent :=
  rfl

@[simp] theorem Presence.whenUnnamed_anywhere (absent : α) :
    (Presence.anywhere absent).whenUnnamed = some absent :=
  rfl

namespace Fields

@[simp] theorem take_named (fields : List (String × Value)) (name : String) (decode : Decoder α)
    (presence : Presence α) :
    (named fields).take format name decode presence =
      ((Value.field? fields name).elim presence.whenUnnamed (decode format)).map
        (·, named fields) := by
  rw [take]
  cases Value.field? fields name <;> rfl

@[simp] theorem finish_named (fields : List (String × Value)) :
    (named fields).finish format = some () := by
  cases format <;> rfl

end Fields

namespace Decoder

/-- To be used from the outside in (`↓`) where a record has many fields: `simp` then does not try the
fields that follow before it has read the first. -/
theorem bind_eq_elim {β : Type} (read : Option α) (next : α → Option β) :
    (read >>= next) = read.elim none next := by
  cases read <;> rfl

@[simp] theorem record_record (read : Format → Fields → Option (α × Fields))
    (fields : List (String × Value)) :
    record read format (.record fields) =
      (read format (.named fields)).bind fun r => (r.2.finish format).bind fun _ => some r.1 :=
  rfl

@[simp] theorem string_string (s : String) : string format (.string s) = some s := rfl

@[simp] theorem bool_bool (b : Bool) : bool format (.bool b) = some b := rfl

@[simp] theorem option_ofOption (o : Option String) :
    option string format (.ofOption o) = some o := by
  cases o <;> rfl

/-- A field that is left out when there is nothing in it. -/
@[simp] theorem elim_option_string (o : Option String) :
    o.elim (some none) (option string format ∘ .string) = some o := by
  cases o <;> rfl

@[simp] theorem word32_natural (n : Nat) :
    word32 format (.natural n) = if n < Nat.pow 2 32 then some n else none := rfl

@[simp] theorem word64_natural (n : Nat) :
    word64 format (.natural n) = if n < Nat.pow 2 64 then some n else none := rfl

theorem mapM_eq_some {β : Type} {decode : β → Option α} {encode : α → β} {items : List α}
    (reads : ∀ a ∈ items, decode (encode a) = some a) :
    (items.map encode).mapM decode = some items := by
  induction items with
  | nil => rfl
  | cons a items ih =>
    obtain ⟨first, others⟩ := List.forall_mem_cons.mp reads
    simp [List.mapM_cons, first, ih others]

/-- A list is read back if its items are. -/
theorem list_map {decode : Decoder α} {encode : α → Value} {items : List α}
    (reads : ∀ a ∈ items, decode format (encode a) = some a) :
    list decode format (.list (items.map encode)) = some items :=
  mapM_eq_some reads

end Decoder

namespace NameMap
variable {item : Decoder α} {encodeItem : α → Value} {m : NameMap α}

/-- A map is read back from its entries, in whatever order they are written. -/
theorem decoder_of_perm (reads : ∀ a, item format (encodeItem a) = some a)
    {entries : List (String × α)} (perm : entries.Perm m.toList) :
    decoder item format (.record (entries.map fun e => (e.1, encodeItem e.2))) = some m := by
  have read : Decoder.entries item format (.record (entries.map fun e => (e.1, encodeItem e.2))) =
      some entries :=
    Decoder.mapM_eq_some fun e _ => by simp [reads]
  rw [decoder, read, Option.map_some, ofEntries_of_perm perm]

theorem decoder_encode (reads : ∀ a, item format (encodeItem a) = some a) :
    decoder item format (m.encode encodeItem) = some m :=
  decoder_of_perm reads (List.Perm.refl m.toList)

@[simp] theorem stringsDecoder_encodeStrings (m : NameMap String) :
    stringsDecoder format m.encodeStrings = some m :=
  decoder_encode fun _ => rfl

theorem inOnePlace_encode (whole : ∀ a, (encodeItem a).InOnePlace) :
    (m.encode encodeItem).InOnePlace :=
  Value.inOnePlace_entries whole m.toList

end NameMap

/-! ## Through JSON text -/

/-- The text of the value, in either layout, is decoded to `a`. -/
def Decoder.Reads (decode : Decoder α) (v : Value) (a : α) : Prop :=
  ∀ layout, (Json.parse? (Json.print layout v)).bind (decode .json) = some a

theorem Decoder.reads_iff {decode : Decoder α} {v : Value} (whole : v.InOnePlace) (a : α) :
    decode.Reads v a ↔ decode .json v = some a := by
  simp only [Reads, Json.parse?_print _ whole, Option.bind_some]
  exact ⟨fun read => read .compact, fun read _ => read⟩

end ColumnOrigin
