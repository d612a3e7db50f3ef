import Scenario.Proofs.Json.Decode
import Scenario.Proofs.Json.Nesting
/-!
The fields of objects as they stand in a text.

A text may write the fields of an object in any order. As long as no key stands twice, what is found
under a key is the same before and after the fields are put in order, and a decoder that does not
look at the order reads the same. `Value.Puts` tells the two ways of making an object, which keep or
order its fields, and a variant is read alike from both.
-/
namespace Scenario.Json

namespace Parser

/-- What an object is read from: a brace, and either the other one or fields. -/
theorem object_of_value {fuel depth : Nat} {text rest : List Char} {fields : List (String × Value)}
    (done : value (fuel + 1) (depth + 1) text = .ok (.object fields, rest)) :
    ∃ inside, skip text = '{' :: inside ∧
      ((fields = [] ∧ skip inside = '}' :: rest) ∨
        ∃ later, skip inside = '"' :: later ∧
          Parser.fields fuel depth later = .ok (fields, rest)) := by
  unfold value at done
  split at done
  · cases done
  · cases eq_of_word done
  · cases eq_of_word done
  · cases eq_of_word done
  · obtain ⟨⟨s, after⟩, -, done⟩ := Success.bind_iff.mp done
    cases done
  · dsimp only at done
    split at done
    · cases done
    · cases done
    · obtain ⟨⟨items, after⟩, -, done⟩ := Success.bind_iff.mp done
      cases done
  · rename_i inside opened
    refine ⟨inside, opened, ?_⟩
    dsimp only at done
    split at done
    · rename_i closed
      cases done
      exact .inl ⟨rfl, closed⟩
    · cases done
    · rename_i later quoted
      obtain ⟨⟨fields, after⟩, read, done⟩ := Success.bind_iff.mp done
      cases done
      exact .inr ⟨later, quoted, read⟩
    · cases done
  · split at done
    · cases nesting_of_number done
    · cases done

end Parser

theorem Value.get?_normalizeFields {fields : List (String × Value)}
    (distinct : (fields.map Prod.fst).Nodup) (key : String) :
    Entries.get? (Entries.ofList (normalizeFields fields)) key =
      (Entries.get? fields key).map normalize := by
  have keys : ((normalizeFields fields).map Prod.fst).Nodup := by
    rwa [normalizeFields_eq, List.map_map]
  rw [Entries.get?_ofList, Entries.get?_reverse keys, normalizeFields_eq, Entries.get?_map]

theorem Value.field?_ofFields {fields : List (String × Value)}
    (distinct : (fields.map Prod.fst).Nodup) (key : String) :
    (ofFields fields).field? key = Entries.get? fields key :=
  (Entries.get?_ofList fields key).trans (Entries.get?_reverse distinct key)

/-- Objects are made of fields that stand once, which are put in some order. -/
def Value.Puts (object : List (String × Value) → Value) : Prop :=
  ∀ fields, (fields.map Prod.fst).Nodup → ∃ kept, object fields = .object kept ∧ kept.Perm fields

theorem Value.puts_object : Puts .object := fun fields _ => ⟨fields, rfl, .refl fields⟩

theorem Value.puts_ofFields : Puts .ofFields :=
  fun _ distinct => ⟨_, rfl, Entries.ofList_perm distinct⟩

theorem Variant.decode_puts {α : Type} {object : List (String × Value) → Value}
    (puts : Value.Puts object) {fields : List (String × Value)} {variants : List (Variant α)}
    {setting : Setting} {tag kind owner title name : String} {r : Record α} {x : α}
    (distinct : (fields.map Prod.fst).Nodup)
    (tagged : Entries.get? fields tag = some (.string name))
    (known : variants.find? (·.name = name) = some (.ofRecord owner title name r))
    (reads : ∀ content, (∀ key, Entries.get? content key =
      Entries.get? (Entries.erase tag fields) key) → r.Reads content x) :
    decode setting tag kind variants (object fields) = .ok x := by
  obtain ⟨kept, made, same⟩ := puts fields distinct
  have found := Entries.get?_of_perm distinct same
  rw [made]
  refine decode_record ((same.map Prod.fst).nodup_iff.mpr distinct) ((found tag).trans tagged)
    known (reads _ fun key => ?_)
  rw [Entries.get?_erase, Entries.get?_erase, found]

theorem Value.normalize_normalize (v : Value) : v.normalize.normalize = v.normalize :=
  normalize_of_ordered v.normalize_ordered

theorem Decoder.dict_ordered (fields : List (String × Value)) :
    dict ordered (.object fields) = .ok (.ofList (Value.normalizeFields fields)) := by
  have entries : fields.mapM (fun field => (ordered field.2).map fun v => (field.1, v)) =
      .ok (Value.normalizeFields fields) := by
    rw [Success.mapM_iff, Value.normalizeFields_eq, List.forall₂_map_right_iff]
    exact List.forall₂_same.mpr fun _ _ => rfl
  rw [dict, entries]
  rfl

theorem Decoder.dict_of_sorted {vars : Dict Value} (sorted : (Value.ofDict vars).Ordered) :
    dict ordered (.ofDict vars) = .ok vars := by
  have same := Value.normalize_of_ordered sorted
  rw [Value.ofDict, Value.normalize] at same
  rw [Value.ofDict, dict_ordered]
  exact congrArg Except.ok (Dict.ext_entries (Value.object.inj same))

theorem Decoder.nullable_ordered {v : Value} (sorted : v.Ordered) :
    nullable ordered v = .ok ((some v).filter (· ≠ .null)) := by
  have kept : ordered v = .ok v := congrArg Except.ok (Value.normalize_of_ordered sorted)
  cases v with
  | null => rfl
  | bool | number | string | array | object =>
    rw [nullable, kept]
    · rfl
    · nofun

/-- The decoder does not look at the order of fields. -/
def Decoder.Unordered {α : Type} (decode : Decoder α) : Prop :=
  ∀ v, decode v.normalize = decode v

namespace Decoder.Unordered

theorem ordered : Unordered ordered := fun v => congrArg Except.ok v.normalize_normalize

theorem string : Unordered string := by
  intro v
  cases v <;> rfl

theorem uint64 : Unordered uint64 := by
  intro v
  cases v <;> rfl

theorem nullable {α : Type} {decode : Decoder α} (unordered : Unordered decode) :
    Unordered (nullable decode) := by
  intro v
  have same := unordered v
  cases v with
  | null => rfl
  | bool | number | string => rfl
  | array | object => exact congrArg (Except.map some) same

theorem dict : Unordered (dict Decoder.ordered) := by
  intro v
  cases v with
  | null | bool | number | string | array => rfl
  | object fields =>
    have again := Value.normalize_normalize (.object fields)
    rw [Value.normalize, Value.normalize] at again
    rw [Value.normalize, dict_ordered, dict_ordered]
    exact congrArg Except.ok (Dict.ext_entries (Value.object.inj again))

end Decoder.Unordered

theorem Value.get?_of_ordered {fields : List (String × Value)} (ordered : (object fields).Ordered)
    (key : String) : (Entries.get? fields key).map normalize = Entries.get? fields key := by
  cases found : Entries.get? fields key with
  | none => rfl
  | some v =>
    rw [Ordered, orderedFields_iff] at ordered
    have inside : v.Ordered := ordered.2 (key, v) (Entries.mem_of_get? found)
    rw [Option.map_some, normalize_of_ordered inside]

/-- A field with a value of its own is read as the same, however its value is written. -/
theorem Record.exists_reads_fieldWith {α : Type} {value : α} {name : String} {decode : Decoder α}
    (unordered : decode.Unordered) {found : Option Value}
    (good : ∀ v ∈ found, ∃ x, decode v = .ok x) :
    ∃ x, ∀ written, (Entries.get? written name).map Value.normalize = found →
      (Record.fieldWith value name decode).Reads written x := by
  cases found with
  | none =>
    refine ⟨value, fun written missing => .absent ?_⟩
    rwa [Option.map_eq_none_iff] at missing
  | some v =>
    obtain ⟨x, decoded⟩ := good v rfl
    refine ⟨x, fun written here => ?_⟩
    obtain ⟨original, stands, rfl⟩ := Option.map_eq_some_iff.mp here
    exact .fieldWith stands ((unordered original).symm.trans decoded)

end Scenario.Json
