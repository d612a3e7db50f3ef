import Scenario.Json.Decode
import Scenario.Proofs.Dict
import Scenario.Proofs.Success
/-!
What decoders read.

A record reads a value from fields if each field that it knows is good there and the value is made
of them. That a record reads what was written is shown field by field, along the record.
-/
namespace Scenario.Json

namespace Decoder

theorem any_value (v : Value) : any v = .ok v := rfl

theorem string_string (s : String) : string (.string s) = .ok s := rfl

theorem natBelow_whole {n : Whole} {m bound : Nat} (value : n.value = m) (below : m < bound)
    (expected : String) : natBelow bound expected (.whole n) = .ok m := by
  simp only [natBelow, Value.whole, value, Int.natCast_nonneg, Int.toNat_natCast, below, and_self,
    if_true]

theorem uint16_whole (n : UInt16) : uint16 (.whole (.ofUInt16 n)) = .ok n := by
  rw [uint16, natBelow_whole rfl n.toNat_lt]
  exact congrArg Except.ok UInt16.ofNat_toNat

theorem uint64_whole (n : UInt64) : uint64 (.whole (.ofUInt64 n)) = .ok n := by
  rw [uint64, natBelow_whole rfl n.toNat_lt]
  exact congrArg Except.ok UInt64.ofNat_toNat

theorem nullable_elim {α : Type} {encode : α → Value} {decode : Decoder α} {x : Option α}
    (solid : ∀ a ∈ x, encode a ≠ .null) (inverse : ∀ a ∈ x, decode (encode a) = .ok a) :
    nullable decode (x.elim .null encode) = .ok x := by
  cases x with
  | none => rfl
  | some a =>
    have written : encode a ≠ .null := solid a rfl
    rw [Option.elim_some, nullable.eq_def]
    split
    · rename_i null
      exact absurd null written
    · rw [inverse a rfl]
      rfl

theorem dict_ofDict {α : Type} (encode : α → Value) {decode : Decoder α}
    (inverse : ∀ x, decode (encode x) = .ok x) (d : Dict α) :
    dict decode (.ofDict (d.map encode)) = .ok d := by
  have entries : (d.map encode).entries.mapM
      (fun field => (decode field.2).map fun x => (field.1, x)) = .ok d.entries := by
    rw [Success.mapM_iff]
    simp only [Dict.map, List.forall₂_map_left_iff, inverse]
    exact List.forall₂_same.mpr fun _ _ => rfl
  rw [Value.ofDict, dict, entries]
  exact congrArg Except.ok (Dict.ext_entries (Entries.ofList_of_ascending d.ascending))

end Decoder

namespace Record
variable {α β : Type}

/-- From some fields, whatever else they hold, a record reads a value. -/
structure Reads (r : Record α) (fields : List (String × Value)) (x : α) : Prop where
  good : ∀ name check, r.checks.lookup name = some check →
    ∀ v, Entries.get? fields name = some v → check v = .ok ()
  taken : r.fromFields fields = .ok x

variable {fields : List (String × Value)}

theorem Reads.fieldOr {absent short : Option α} {name : String} {decode : Decoder α} {v : Value}
    {x : α} (found : Entries.get? fields name = some v) (decoded : decode v = .ok x) :
    (Record.fieldOr absent short name decode).Reads fields x := by
  constructor
  · intro other check known w here
    simp only [Record.fieldOr, List.lookup_cons, List.lookup_nil] at known
    cases same : other == name with
    | false =>
      rw [same] at known
      cases known
    | true =>
      rw [same] at known
      cases known
      rw [beq_iff_eq.mp same, found] at here
      cases here
      simp only [decoded]
      rfl
  · simp only [Record.fieldOr, found, decoded]

theorem Reads.field {name : String} {decode : Decoder α} {v : Value} {x : α}
    (found : Entries.get? fields name = some v) (decoded : decode v = .ok x) :
    (Record.field name decode).Reads fields x :=
  .fieldOr found decoded

theorem Reads.fieldWith {value : α} {name : String} {decode : Decoder α} {v : Value} {x : α}
    (found : Entries.get? fields name = some v) (decoded : decode v = .ok x) :
    (Record.fieldWith value name decode).Reads fields x :=
  .fieldOr found decoded

theorem Reads.absent {value : α} {name : String} {decode : Decoder α}
    (missing : Entries.get? fields name = none) :
    (Record.fieldWith value name decode).Reads fields value := by
  constructor
  · intro other check known w here
    simp only [Record.fieldWith, Record.fieldOr, List.lookup_cons, List.lookup_nil] at known
    cases same : other == name with
    | false =>
      rw [same] at known
      cases known
    | true =>
      rw [beq_iff_eq.mp same, missing] at here
      cases here
  · simp only [Record.fieldWith, Record.fieldOr, missing]

theorem Reads.nullable {name : String} {decode : Decoder α} {v : Option Value} {x : Option α}
    (found : Entries.get? fields name = v) (present : ∀ w ∈ v, Decoder.nullable decode w = .ok x)
    (absent : v = none → x = none) :
    (Record.fieldWith none name (Decoder.nullable decode)).Reads fields x := by
  cases v with
  | none =>
    rw [absent rfl]
    exact .absent found
  | some w => exact .fieldWith found (present w rfl)

theorem Reads.map {f : α → β} {r : Record α} {x : α} (reads : r.Reads fields x) :
    (Record.map f r).Reads fields (f x) := by
  refine ⟨reads.good, ?_⟩
  simp only [Record.map, reads.taken]
  rfl

theorem Reads.apply {r : Record (α → β)} {s : Record α} {f : α → β} {x : α}
    (first : r.Reads fields f) (second : s.Reads fields x) :
    (r.apply s).Reads fields (f x) := by
  constructor
  · intro name check known v found
    rw [Record.apply, List.lookup_append] at known
    cases early : r.checks.lookup name with
    | some one =>
      rw [early] at known
      cases known
      exact first.good name check early v found
    | none =>
      rw [early, Option.none_or] at known
      exact second.good name check known v found
  · simp only [Record.apply, first.taken, second.taken]
    rfl

/-- A field without a value of its own is taken from the field of its name. -/
theorem found_of_fromFields {name : String} {decode : Decoder α} {x : α}
    (taken : (Record.field name decode).fromFields fields = .ok x) :
    ∃ v, Entries.get? fields name = some v ∧ decode v = .ok x := by
  simp only [Record.field, Record.fieldOr] at taken
  cases found : Entries.get? fields name with
  | none =>
    simp only [found] at taken
    cases taken
  | some v =>
    simp only [found] at taken
    exact ⟨v, rfl, taken⟩

/-- From an array it is taken from the next item. -/
theorem first_of_fromItems {name expected : String} {position : Nat} {decode : Decoder α} {x : α}
    {items rest : List Value}
    (taken : (Record.field name decode).fromItems expected position items = .ok (x, rest)) :
    ∃ v, items = v :: rest ∧ decode v = .ok x := by
  simp only [Record.field, Record.fieldOr] at taken
  cases items with
  | nil => cases taken
  | cons v later =>
    obtain ⟨y, decoded, same⟩ := Success.map_iff.mp taken
    cases same
    exact ⟨v, rfl, decoded⟩

/-- Fields that stand once pass the check, if every known one is good. -/
theorem check_eq_ok {checks : List (String × (Value → Except DecodeError Unit))}
    (distinct : (fields.map Prod.fst).Nodup)
    (good : ∀ entry ∈ fields, ∀ check, checks.lookup entry.1 = some check →
      check entry.2 = .ok ()) :
    check checks [] fields = .ok () := by
  -- By induction on the fields; none of those to come has been seen.
  have onward (seen : List String) (fresh : ∀ entry ∈ fields, entry.1 ∉ seen) :
      check checks seen fields = .ok () := by
    induction fields generalizing seen with
    | nil => rfl
    | cons head rest ih =>
      obtain ⟨name, v⟩ := head
      obtain ⟨single, later⟩ := List.nodup_cons.mp distinct
      obtain ⟨unseen, fresh⟩ := List.forall_mem_cons.mp fresh
      obtain ⟨goodHead, goodRest⟩ := List.forall_mem_cons.mp good
      rw [check]
      cases known : checks.lookup name with
      | none => exact ih later goodRest seen fresh
      | some one =>
        have goodValue : one v = .ok () := goodHead one known
        simp only [if_neg unseen, goodValue]
        refine ih later goodRest (name :: seen) fun entry member again => ?_
        rcases List.mem_cons.mp again with same | seenBefore
        · exact single (List.mem_map.mpr ⟨entry, member, same⟩)
        · exact fresh entry member seenBefore
  exact onward [] (by simp)

theorem decode_object {r : Record α} {setting : Setting} {name : String} {x : α}
    (distinct : (fields.map Prod.fst).Nodup) (reads : r.Reads fields x) :
    r.decode setting name (.object fields) = .ok x := by
  have checked : check r.checks [] fields = .ok () := by
    refine check_eq_ok distinct fun entry member check known => ?_
    exact reads.good entry.1 check known entry.2 (Entries.get?_of_mem_of_nodup distinct member)
  rw [decode, checked]
  exact reads.taken

theorem decode_ofFields {r : Record α} {setting : Setting} {name : String} {x : α}
    (reads : r.Reads (Entries.ofList fields) x) :
    r.decode setting name (.ofFields fields) = .ok x :=
  decode_object (Entries.nodup_of_ascending (Entries.ofList_ascending fields)) reads

end Record

namespace Variant
variable {α : Type} {fields : List (String × Value)} {variants : List (Variant α)}

theorem ofFields_of_untagged {setting : Setting} {tag : String} (variant : Variant α)
    (untagged : ∀ entry ∈ fields, entry.1 ≠ tag) :
    ofFields setting tag variants (some variant) fields = .ok (some variant) := by
  induction fields with
  | nil => rfl
  | cons head rest ih =>
    obtain ⟨key, v⟩ := head
    obtain ⟨apart, untagged⟩ := List.forall_mem_cons.mp untagged
    rw [ofFields, if_neg apart]
    exact ih untagged

theorem ofFields_of_tagged {setting : Setting} {tag name : String} {variant : Variant α}
    (distinct : (fields.map Prod.fst).Nodup)
    (tagged : Entries.get? fields tag = some (.string name))
    (known : variants.find? (·.name = name) = some variant) :
    ofFields setting tag variants none fields = .ok (some variant) := by
  induction fields with
  | nil => cases tagged
  | cons head rest ih =>
    obtain ⟨key, v⟩ := head
    obtain ⟨single, later⟩ := List.nodup_cons.mp distinct
    rw [Entries.get?] at tagged
    by_cases same : key = tag
    · subst same
      rw [if_pos rfl] at tagged
      cases tagged
      have untagged : ∀ entry ∈ rest, entry.1 ≠ key := by
        rintro entry member rfl
        exact single (List.mem_map.mpr ⟨entry, member, rfl⟩)
      rw [ofFields, if_pos rfl]
      simp only [ofTag, known, bind, Except.bind]
      exact ofFields_of_untagged variant untagged
    · rw [if_neg same] at tagged
      rw [ofFields, if_neg same]
      exact ih later tagged

theorem decode_object {setting : Setting} {tag kind name : String} {variant : Variant α}
    (distinct : (fields.map Prod.fst).Nodup)
    (tagged : Entries.get? fields tag = some (.string name))
    (known : variants.find? (·.name = name) = some variant) :
    decode setting tag kind variants (.object fields) =
      variant.content (.object (Entries.erase tag fields)) := by
  rw [decode, ofFields_of_tagged distinct tagged known]
  rfl

theorem decode_record {setting : Setting} {tag kind owner title name : String} {r : Record α}
    {x : α} (distinct : (fields.map Prod.fst).Nodup)
    (tagged : Entries.get? fields tag = some (.string name))
    (known : variants.find? (·.name = name) = some (.ofRecord owner title name r))
    (reads : r.Reads (Entries.erase tag fields) x) :
    decode setting tag kind variants (.object fields) = .ok x := by
  rw [decode_object distinct tagged known]
  simp only [ofRecord]
  exact Record.decode_object (distinct.sublist (List.filter_sublist.map Prod.fst)) reads

theorem decode_ofFields {setting : Setting} {tag kind owner title name : String} {r : Record α}
    {x : α} (tagged : Entries.get? fields.reverse tag = some (.string name))
    (known : variants.find? (·.name = name) = some (.ofRecord owner title name r))
    (reads : r.Reads (Entries.erase tag (Entries.ofList fields)) x) :
    decode setting tag kind variants (.ofFields fields) = .ok x :=
  decode_record (Entries.nodup_of_ascending (Entries.ofList_ascending fields))
    (Entries.get?_ofList_eq_some tagged) known reads

end Variant

end Scenario.Json
