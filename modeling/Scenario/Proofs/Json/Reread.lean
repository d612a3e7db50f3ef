import Scenario.Proofs.Json.Double
import Scenario.Proofs.Json.Value
/-!
Values as they are read again.

Nothing of a value changes when its text is read but its doubles. `Value.mapDoubles` changes the
doubles of a value and nothing else, and what is read is the value with each double read again.
-/
namespace Scenario.Number.Double

/-- The double as which the text of a double is read. -/
def reread (d : Double) : Double :=
  match Json.Parser.number d.text.toList with
  | .ok (.number (.double read), _) => read
  | _ => d

theorem number_reread (d : Double) :
    Json.Parser.number d.text.toList = .ok (.number (.double d.reread), []) := by
  obtain ⟨read, taken⟩ := Json.Parser.number_text d
  rw [reread, taken]

theorem reread_of_readsBack {d : Double} (back : d.ReadsBack) : d.reread = d := by
  rw [reread, back]

end Scenario.Number.Double

namespace Scenario.Json

namespace Value

variable (f : Number.Double → Number.Double)

mutual
/-- The value with other doubles. -/
def mapDoubles : Value → Value
  | .number (.double d) => .number (.double (f d))
  | .array items => .array (mapDoublesItems items)
  | .object fields => .object (mapDoublesFields fields)
  | v => v

def mapDoublesItems : List Value → List Value
  | [] => []
  | item :: items => mapDoubles item :: mapDoublesItems items

def mapDoublesFields : List (String × Value) → List (String × Value)
  | [] => []
  | (key, value) :: fields => (key, mapDoubles value) :: mapDoublesFields fields
end

theorem mapDoublesItems_eq (items : List Value) :
    mapDoublesItems f items = items.map (mapDoubles f) := by
  induction items with
  | nil => rfl
  | cons item items ih => rw [mapDoublesItems, ih, List.map_cons]

theorem mapDoublesFields_eq (fields : List (String × Value)) :
    mapDoublesFields f fields = fields.map fun field => (field.1, field.2.mapDoubles f) := by
  induction fields with
  | nil => rfl
  | cons field fields ih => rw [mapDoublesFields, ih, List.map_cons]

theorem mapDoubles_array (items : List Value) :
    (array items).mapDoubles f = .array (items.map (mapDoubles f)) := by
  rw [mapDoubles, mapDoublesItems_eq]

theorem mapDoubles_object (fields : List (String × Value)) :
    (object fields).mapDoubles f =
      .object (fields.map fun field => (field.1, field.2.mapDoubles f)) := by
  rw [mapDoubles, mapDoublesFields_eq]

variable {f} in
theorem mapDoubles_of_fixed {v : Value} (fixed : ∀ d ∈ v.doubles, f d = d) :
    v.mapDoubles f = v := by
  induction v using Value.induction with
  | null | bool | string => rfl
  | number n =>
    cases n with
    | whole n => rfl
    | double d =>
      rw [mapDoubles, fixed d]
      simp [doubles]
  | array items ih =>
    rw [doubles, forall_doublesItems_iff] at fixed
    have same : items.map (mapDoubles f) = items.map id :=
      List.map_congr_left fun item member => ih item member (fixed item member)
    rw [mapDoubles_array, same, List.map_id]
  | object fields ih =>
    rw [doubles, forall_doublesFields_iff] at fixed
    have same : fields.map (fun field => (field.1, field.2.mapDoubles f)) = fields.map id := by
      apply List.map_congr_left
      intro field member
      rw [ih field member (fixed field member), id]
    rw [mapDoubles_object, same, List.map_id]

theorem ordered_mapDoubles {v : Value} (ordered : v.Ordered) : (v.mapDoubles f).Ordered := by
  induction v using Value.induction with
  | null | bool | string => trivial
  | number n => cases n <;> trivial
  | array items ih =>
    rw [Ordered, orderedItems_iff] at ordered
    rw [mapDoubles_array, Ordered, orderedItems_iff, List.forall_mem_map]
    exact fun item member => ih item member (ordered item member)
  | object fields ih =>
    rw [Ordered, orderedFields_iff] at ordered
    rw [mapDoubles_object, Ordered, orderedFields_iff, List.forall_mem_map]
    refine ⟨?_, fun field member => ih field member (ordered.2 field member)⟩
    exact List.pairwise_map.mpr ordered.1

theorem nesting_mapDoubles_le {v : Value} {depth : Nat} (shallow : v.nesting ≤ depth) :
    (v.mapDoubles f).nesting ≤ depth := by
  induction v using Value.induction generalizing depth with
  | null | bool | string => exact shallow
  | number n => cases n <;> exact shallow
  | array items ih =>
    cases depth with
    | zero => cases shallow
    | succ depth =>
      rw [nesting, Nat.add_le_add_iff_right, nestingItems_le_iff] at shallow
      rw [mapDoubles_array, nesting, Nat.add_le_add_iff_right, nestingItems_le_iff,
        List.forall_mem_map]
      exact fun item member => ih item member (shallow item member)
  | object fields ih =>
    cases depth with
    | zero => cases shallow
    | succ depth =>
      rw [nesting, Nat.add_le_add_iff_right, nestingFields_le_iff] at shallow
      rw [mapDoubles_object, nesting, Nat.add_le_add_iff_right, nestingFields_le_iff,
        List.forall_mem_map]
      exact fun field member => ih field member (shallow field member)

/-- The value as which its text is read. -/
def reread (v : Value) : Value := v.mapDoubles Number.Double.reread

theorem reread_of_readsBack {v : Value} (back : ∀ d ∈ v.doubles, d.ReadsBack) : v.reread = v :=
  mapDoubles_of_fixed fun d member => Number.Double.reread_of_readsBack (back d member)

end Value

/-- A number is read as itself or, if it is a double, as the double that its text is read as. -/
theorem Number.reads_text (n : Number) :
    Parser.number n.text.toList = .ok ((Value.number n).reread, []) := by
  cases n with
  | whole n => exact Parser.number_whole n
  | double d => exact d.number_reread

end Scenario.Json
