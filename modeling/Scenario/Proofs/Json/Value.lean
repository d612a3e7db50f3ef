import Scenario.Json.Value
import Scenario.Proofs.Dict
/-!
Values by what they are made of.

What holds of the items of an array and of the fields of an object is said item by item and field by
field, and facts about all values follow by induction on them. Putting a value in order changes no
value that is in order, and never makes it nest deeper.
-/
namespace Scenario

namespace Entries
variable {α : Type}

theorem mem_of_mem_ofList {entries : List (String × α)} {entry : String × α}
    (member : entry ∈ ofList entries) : entry ∈ entries := by
  -- Inserting goes on from what has been sorted so far, so both lists are kept general.
  have folded (all sorted : List (String × α))
      (inside : entry ∈ all.foldl (fun sorted entry => insert entry.1 entry.2 sorted) sorted) :
      entry ∈ sorted ∨ entry ∈ all := by
    induction all generalizing sorted with
    | nil => exact .inl inside
    | cons head rest ih =>
      rcases ih _ inside with early | late
      · rcases mem_insert early with rfl | before
        · exact .inr List.mem_cons_self
        · exact .inl before
      · exact .inr (List.mem_cons_of_mem head late)
  rcases folded entries [] member with none | present
  · cases none
  · exact present

end Entries

namespace Json.Value

/-- Induction on what a value is made of. -/
@[elab_as_elim]
theorem induction {motive : Value → Prop} (null : motive .null) (bool : ∀ b, motive (.bool b))
    (number : ∀ n, motive (.number n)) (string : ∀ s, motive (.string s))
    (array : ∀ items, (∀ item ∈ items, motive item) → motive (.array items))
    (object : ∀ fields, (∀ field ∈ fields, motive field.2) → motive (.object fields))
    (v : Value) : motive v := by
  -- The recursor asks for statements about the lists and pairs inside a value, too.
  refine @Value.rec motive (fun items => ∀ item ∈ items, motive item)
    (fun fields => ∀ field ∈ fields, motive field.2) (fun field => motive field.2)
    null bool number string array object ?_ ?_ ?_ ?_ ?_ v
  · simp
  · exact fun _ _ first later => List.forall_mem_cons.mpr ⟨first, later⟩
  · simp
  · exact fun _ _ first later => List.forall_mem_cons.mpr ⟨first, later⟩
  · exact fun _ _ value => value

theorem orderedItems_iff (items : List Value) :
    OrderedItems items ↔ ∀ item ∈ items, item.Ordered := by
  induction items with
  | nil => simp [OrderedItems]
  | cons item items ih => rw [OrderedItems, ih, List.forall_mem_cons]

theorem orderedFields_iff (fields : List (String × Value)) :
    OrderedFields fields ↔ ∀ field ∈ fields, field.2.Ordered := by
  induction fields with
  | nil => simp [OrderedFields]
  | cons field fields ih => rw [OrderedFields, ih, List.forall_mem_cons]

theorem nestingItems_le_iff (items : List Value) (depth : Nat) :
    nestingItems items ≤ depth ↔ ∀ item ∈ items, item.nesting ≤ depth := by
  induction items with
  | nil => simp [nestingItems]
  | cons item items ih => rw [nestingItems, Nat.max_le, ih, List.forall_mem_cons]

theorem nestingFields_le_iff (fields : List (String × Value)) (depth : Nat) :
    nestingFields fields ≤ depth ↔ ∀ field ∈ fields, field.2.nesting ≤ depth := by
  induction fields with
  | nil => simp [nestingFields]
  | cons field fields ih => rw [nestingFields, Nat.max_le, ih, List.forall_mem_cons]

mutual
/-- The doubles in a value, in the order in which they stand. -/
def doubles : Value → List Number.Double
  | .number (.double d) => [d]
  | .array items => doublesItems items
  | .object fields => doublesFields fields
  | _ => []

def doublesItems : List Value → List Number.Double
  | [] => []
  | item :: items => doubles item ++ doublesItems items

def doublesFields : List (String × Value) → List Number.Double
  | [] => []
  | (_, value) :: fields => doubles value ++ doublesFields fields
end

theorem forall_doublesItems_iff (items : List Value) (p : Number.Double → Prop) :
    (∀ d ∈ doublesItems items, p d) ↔ ∀ item ∈ items, ∀ d ∈ item.doubles, p d := by
  induction items with
  | nil => simp [doublesItems]
  | cons item items ih => rw [doublesItems, List.forall_mem_append, ih, List.forall_mem_cons]

theorem forall_doublesFields_iff (fields : List (String × Value)) (p : Number.Double → Prop) :
    (∀ d ∈ doublesFields fields, p d) ↔ ∀ field ∈ fields, ∀ d ∈ field.2.doubles, p d := by
  induction fields with
  | nil => simp [doublesFields]
  | cons field fields ih => rw [doublesFields, List.forall_mem_append, ih, List.forall_mem_cons]

theorem normalizeItems_eq (items : List Value) : normalizeItems items = items.map normalize := by
  induction items with
  | nil => rfl
  | cons item items ih => rw [normalizeItems, ih, List.map_cons]

theorem normalizeFields_eq (fields : List (String × Value)) :
    normalizeFields fields = fields.map fun field => (field.1, field.2.normalize) := by
  induction fields with
  | nil => rfl
  | cons field fields ih => rw [normalizeFields, ih, List.map_cons]

theorem exists_of_mem_normalize {fields : List (String × Value)} {field : String × Value}
    (member : field ∈ Entries.ofList (normalizeFields fields)) :
    ∃ original ∈ fields, field = (original.1, original.2.normalize) := by
  have present := Entries.mem_of_mem_ofList member
  rw [normalizeFields_eq, List.mem_map] at present
  obtain ⟨original, inside, rfl⟩ := present
  exact ⟨original, inside, rfl⟩

theorem normalize_ordered (v : Value) : v.normalize.Ordered := by
  induction v using Value.induction with
  | null | bool | number | string => trivial
  | array items ih =>
    rw [normalize, normalizeItems_eq, Ordered, orderedItems_iff, List.forall_mem_map]
    exact ih
  | object fields ih =>
    rw [normalize, Ordered, orderedFields_iff]
    refine ⟨Entries.ofList_ascending _, fun field member => ?_⟩
    obtain ⟨original, inside, rfl⟩ := exists_of_mem_normalize member
    exact ih original inside

theorem normalize_of_ordered {v : Value} (ordered : v.Ordered) : v.normalize = v := by
  induction v using Value.induction with
  | null | bool | number | string => rfl
  | array items ih =>
    rw [Ordered, orderedItems_iff] at ordered
    have same : items.map normalize = items.map id :=
      List.map_congr_left fun item member => ih item member (ordered item member)
    rw [normalize, normalizeItems_eq, same, List.map_id]
  | object fields ih =>
    rw [Ordered, orderedFields_iff] at ordered
    obtain ⟨ascending, ordered⟩ := ordered
    have same : fields.map (fun field => (field.1, field.2.normalize)) = fields.map id := by
      refine List.map_congr_left fun field member => ?_
      rw [ih field member (ordered field member), id]
    rw [normalize, normalizeFields_eq, same, List.map_id, Entries.ofList_of_ascending ascending]

theorem nesting_normalize_le (v : Value) : v.normalize.nesting ≤ v.nesting := by
  induction v using Value.induction with
  | null | bool | number | string => exact Nat.le_refl _
  | array items ih =>
    have all : ∀ item ∈ items, item.nesting ≤ nestingItems items :=
      (nestingItems_le_iff items _).mp (Nat.le_refl _)
    rw [normalize, normalizeItems_eq, nesting, nesting, Nat.add_le_add_iff_right,
      nestingItems_le_iff, List.forall_mem_map]
    exact fun item member => Nat.le_trans (ih item member) (all item member)
  | object fields ih =>
    have all : ∀ field ∈ fields, field.2.nesting ≤ nestingFields fields :=
      (nestingFields_le_iff fields _).mp (Nat.le_refl _)
    rw [normalize, nesting, nesting, Nat.add_le_add_iff_right, nestingFields_le_iff]
    intro field member
    obtain ⟨original, inside, rfl⟩ := exists_of_mem_normalize member
    exact Nat.le_trans (ih original inside) (all original inside)

end Json.Value

end Scenario
