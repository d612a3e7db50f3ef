import Scenario.Proofs.Dict
import Scenario.Proofs.Number.Natural
import Scenario.Proofs.Text
import Scenario.Proofs.Variables.Operand
/-!
Paths into values.

A path names a variable and a location in its value. Each of its steps is read as the key of a field
or as the position of an item, as the value asks for it, so a path leads to nothing but the values
at locations, and every location whose keys hold no points has a path. Where a step leads nowhere,
nothing is found, whatever follows.
-/
namespace Scenario

open Json (Value)
open Number (Numeral)

/-- Positions in arrays are numbers of 64 bits. -/
abbrev indexBound : Nat := 18446744073709551616

theorem position?_eq (step : List Char) :
    position? step = Number.naturalBelow? indexBound step := rfl

namespace Json

/-- Which part of a value is meant: a field of an object or an item of an array. -/
inductive Selector where
  | key (name : String)
  | position (index : Nat)

namespace Selector

def written : Selector → List Char
  | .key name => name.toList
  | .position index => Nat.toDigits 10 index

/-- Whether the step that is written for a part can be read again. -/
def inReach : Selector → Bool
  | .key _ => true
  | .position index => decide (index < indexBound)

/-- The step can mean the part. -/
def Means (step : List Char) : Selector → Prop
  | .key name => step = name.toList
  | .position index => index < indexBound ∧ Numeral index step

end Selector

namespace Value

def select? : Selector → Value → Option Value
  | .key name, .object fields => Entries.get? fields name
  | .position index, .array items => items[index]?
  | _, _ => none

/-- The value at a location. -/
def at? : List Selector → Value → Option Value
  | [], v => some v
  | selector :: location, v => (v.select? selector).bind (at? location)

/-- No array in the value has more items than there are positions. -/
def Indexable (v : Value) : Prop :=
  ∀ location items, v.at? location = some (.array items) → items.length ≤ indexBound

/-- The step leads nowhere from the value. -/
inductive Misses : Value → List Char → Prop where
  | null {step : List Char} : Misses .null step
  | bool {b : Bool} {step : List Char} : Misses (.bool b) step
  | number {n : Json.Number} {step : List Char} : Misses (.number n) step
  | string {s : String} {step : List Char} : Misses (.string s) step
  | absent {fields : List (String × Value)} {step : List Char}
    (absent : ∀ field ∈ fields, field.1.toList ≠ step) : Misses (.object fields) step
  | noNumeral {items : List Value} {step : List Char} (other : ∀ n, ¬ Numeral n step) :
    Misses (.array items) step
  | beyond {items : List Value} {step : List Char} {n : Nat} (numeral : Numeral n step)
    (beyond : items.length ≤ n) : Misses (.array items) step
  | tooLarge {items : List Value} {step : List Char} {n : Nat} (numeral : Numeral n step)
    (large : indexBound ≤ n) : Misses (.array items) step

section Steps
variable {v part : Value} {step : List Char} {selector : Selector}

/-- A step leads to the part that it means in the value: one text can mean a key and a position. -/
theorem step?_eq_some_iff :
    v.step? step = some part ↔
      ∃ selector : Selector, selector.Means step ∧ v.select? selector = some part := by
  cases v with
  | null | bool | number | string =>
    constructor
    · rintro ⟨⟩
    · rintro ⟨selector | index, -, ⟨⟩⟩
  | array items =>
    rw [step?, position?_eq, Option.bind_eq_some_iff]
    constructor
    · rintro ⟨index, read, found⟩
      exact ⟨.position index, Number.naturalBelow?_eq_some_iff.mp read, found⟩
    · rintro ⟨name | index, meant, found⟩
      · cases found
      · exact ⟨index, Number.naturalBelow?_eq_some_iff.mpr meant, found⟩
  | object fields =>
    rw [step?]
    constructor
    · exact fun found => ⟨.key (String.ofList step), String.toList_ofList.symm, found⟩
    · rintro ⟨name | index, meant, found⟩
      · rwa [meant, String.ofList_toList]
      · cases found

theorem step?_eq_none_iff : v.step? step = none ↔ v.Misses step := by
  cases v with
  | null => exact ⟨fun _ => .null, fun _ => rfl⟩
  | bool => exact ⟨fun _ => .bool, fun _ => rfl⟩
  | number => exact ⟨fun _ => .number, fun _ => rfl⟩
  | string => exact ⟨fun _ => .string, fun _ => rfl⟩
  | array items =>
    rw [step?, position?_eq]
    constructor
    · intro outside
      by_cases numeral : ∃ n, Numeral n step
      · obtain ⟨n, numeral⟩ := numeral
        rw [Number.naturalBelow?_of_numeral numeral] at outside
        by_cases below : n < indexBound
        · rw [if_pos below] at outside
          exact .beyond numeral (List.getElem?_eq_none_iff.mp outside)
        · exact .tooLarge numeral (Nat.le_of_not_lt below)
      · exact .noNumeral (not_exists.mp numeral)
    · intro misses
      cases misses with
      | noNumeral other =>
        have unread : Number.naturalBelow? indexBound step = none :=
          Number.naturalBelow?_eq_none_iff.mpr fun n numeral => absurd numeral (other n)
        rw [unread, Option.bind_none]
      | beyond numeral beyond =>
        rw [Number.naturalBelow?_of_numeral numeral]
        split
        · exact List.getElem?_eq_none_iff.mpr beyond
        · rfl
      | tooLarge numeral large =>
        rw [Number.naturalBelow?_of_numeral numeral, if_neg (Nat.not_lt_of_le large),
          Option.bind_none]
  | object fields =>
    rw [step?, Entries.get?_eq_none_iff]
    constructor
    · intro absent
      refine .absent fun field member same => absent field member ?_
      rw [← same, String.ofList_toList]
    · intro misses field member same
      cases misses with
      | absent absent =>
        refine absent field member ?_
        rw [same, String.toList_ofList]

theorem step?_written (found : v.select? selector = some part) :
    v.step? selector.written = if selector.inReach then some part else none := by
  cases v with
  | null | bool | number | string => cases selector <;> cases found
  | array items =>
    cases selector with
    | key name => cases found
    | position index =>
      rw [step?, position?_eq, Selector.written, Selector.inReach,
        Number.naturalBelow?_of_numeral (.of_toDigits index)]
      by_cases below : index < indexBound
      · rw [if_pos below, if_pos (decide_eq_true below)]
        exact found
      · rw [if_neg below, if_neg (by simpa using below), Option.bind_none]
  | object fields =>
    cases selector with
    | key name =>
      rw [step?, Selector.written, String.ofList_toList]
      exact found
    | position index => cases found

end Steps

section Walks
variable {v part : Value} {steps : List (List Char)} {location : List Selector}

theorem walk?_append (steps later : List (List Char)) (v : Value) :
    v.walk? (steps ++ later) = (v.walk? steps).bind (walk? later) := by
  induction steps generalizing v with
  | nil => rfl
  | cons step steps ih =>
    rw [List.cons_append, walk?, walk?]
    cases v.step? step with
    | none => rfl
    | some child => exact ih child

theorem walk?_eq_some_iff :
    v.walk? steps = some part ↔
      ∃ location, List.Forall₂ Selector.Means steps location ∧ v.at? location = some part := by
  -- Only the value tells what a step means, so the location is found together with the walk.
  induction steps generalizing v with
  | nil =>
    constructor
    · exact fun found => ⟨[], .nil, found⟩
    · rintro ⟨location, ⟨⟩, found⟩
      exact found
  | cons step steps ih =>
    rw [walk?, Option.bind_eq_some_iff]
    constructor
    · rintro ⟨child, stepped, walked⟩
      obtain ⟨selector, meant, inside⟩ := step?_eq_some_iff.mp stepped
      obtain ⟨location, others, found⟩ := ih.mp walked
      refine ⟨selector :: location, .cons meant others, ?_⟩
      rw [at?, inside, Option.bind_some, found]
    · rintro ⟨location, meant, found⟩
      cases meant with
      | cons first others =>
        obtain ⟨child, inside, found⟩ := Option.bind_eq_some_iff.mp found
        exact ⟨child, step?_eq_some_iff.mpr ⟨_, first, inside⟩, ih.mpr ⟨_, others, found⟩⟩

theorem walk?_written (found : v.at? location = some part) :
    v.walk? (location.map Selector.written) =
      if location.all Selector.inReach then some part else none := by
  induction location generalizing v with
  | nil => exact found
  | cons selector location ih =>
    obtain ⟨child, inside, found⟩ := Option.bind_eq_some_iff.mp found
    rw [List.map_cons, walk?, step?_written inside, List.all_cons]
    cases selector.inReach with
    | true => exact ih found
    | false => rfl

theorem mem_children_of_select? {child : Value} {selector : Selector}
    (inside : v.select? selector = some child) : child ∈ v.children := by
  cases v with
  | null | bool | number | string => cases selector <;> cases inside
  | array items =>
    cases selector with
    | key name => cases inside
    | position index => exact List.mem_of_getElem? inside
  | object fields =>
    cases selector with
    | key name => exact List.mem_map_of_mem (Entries.mem_of_get? inside)
    | position index => cases inside

theorem Indexable.of_children (few : ∀ items, v = .array items → items.length ≤ indexBound)
    (all : ∀ child ∈ v.children, child.Indexable) : v.Indexable := by
  intro location items found
  cases location with
  | nil => exact few items (Option.some.inj found)
  | cons selector location =>
    obtain ⟨child, inside, found⟩ := Option.bind_eq_some_iff.mp found
    exact all child (mem_children_of_select? inside) location items found

theorem Indexable.child {child : Value} {selector : Selector} (indexable : v.Indexable)
    (inside : v.select? selector = some child) : child.Indexable := by
  intro location items found
  apply indexable (selector :: location)
  rw [at?, inside, Option.bind_some, found]

theorem Indexable.inReach (indexable : v.Indexable) (found : v.at? location = some part) :
    location.all Selector.inReach = true := by
  induction location generalizing v with
  | nil => rfl
  | cons selector location ih =>
    obtain ⟨child, inside, found⟩ := Option.bind_eq_some_iff.mp found
    have reached : selector.inReach = true := by
      cases selector with
      | key name => rfl
      | position index =>
        cases v with
        | array items =>
          have below : index < items.length := (List.getElem?_eq_some_iff.mp inside).1
          exact decide_eq_true (Nat.lt_of_lt_of_le below (indexable [] items rfl))
        | _ => cases inside
    rw [List.all_cons, reached, ih (indexable.child inside) found]
    rfl

end Walks

end Value

end Json

namespace Variables

open Json (Selector)

/-- The path that is written for a location in the value of a variable. -/
def pathTo (name : String) (location : List Selector) : List Char :=
  ['.'].intercalate (name.toList :: location.map Selector.written)

/-- The path can mean the location in the value of the variable. -/
def Means (path : List Char) (name : String) (location : List Selector) : Prop :=
  ∃ steps, path = ['.'].intercalate (name.toList :: steps) ∧
    (∀ piece ∈ name.toList :: steps, '.' ∉ piece) ∧ List.Forall₂ Selector.Means steps location

section Paths
variable (vars : Variables) {name : String} {path step : List Char} {location : List Selector}

theorem resolvePath_intercalate {steps : List (List Char)}
    (free : ∀ piece ∈ name.toList :: steps, '.' ∉ piece) :
    vars.resolvePath (['.'].intercalate (name.toList :: steps)) =
      (vars.get? name).bind (Value.walk? steps) := by
  rw [resolvePath, Text.splitOn_intercalate (List.cons_ne_nil _ _) free]
  dsimp only
  rw [String.ofList_toList]

theorem resolvePath_name (free : '.' ∉ name.toList) :
    vars.resolvePath name.toList = vars.get? name := by
  have walked := vars.resolvePath_intercalate (List.forall_mem_singleton.mpr free)
  rw [List.intercalate_singleton] at walked
  rw [walked]
  cases vars.get? name <;> rfl

/-- What stands behind a path is walked from where the path leads. -/
theorem resolvePath_append (path more : List Char) :
    vars.resolvePath (path ++ '.' :: more) =
      (vars.resolvePath path).bind (Value.walk? (Text.splitOn '.' more)) := by
  obtain ⟨first, steps, pieces⟩ := List.exists_cons_of_ne_nil (Text.splitOn_ne_nil '.' path)
  rw [resolvePath, resolvePath, Text.splitOn_append_separator, pieces, List.cons_append]
  dsimp only
  cases vars.get? (String.ofList first) with
  | none => rfl
  | some v => exact Value.walk?_append steps _ v

theorem point_not_mem_written {selector : Selector}
    (free : ∀ key, selector = .key key → '.' ∉ key.toList) : '.' ∉ selector.written := by
  cases selector with
  | key name => exact free name rfl
  | position index =>
    intro member
    have digit : '.'.isDigit = true :=
      Nat.isDigit_of_mem_toDigits (by decide) (by decide) member
    exact absurd digit (by decide)

theorem resolvePath_pathTo {v part : Value} (free : '.' ∉ name.toList)
    (keys : ∀ key, .key key ∈ location → '.' ∉ key.toList) (bound : vars.get? name = some v)
    (found : v.at? location = some part) :
    vars.resolvePath (pathTo name location) =
      if location.all Selector.inReach then some part else none := by
  have pieces : ∀ piece ∈ name.toList :: location.map Selector.written, '.' ∉ piece := by
    rw [List.forall_mem_cons, List.forall_mem_map]
    refine ⟨free, fun selector member => point_not_mem_written ?_⟩
    rintro key rfl
    exact keys key member
  rw [pathTo, vars.resolvePath_intercalate pieces, bound, Option.bind_some,
    Value.walk?_written found]

theorem resolvePath_eq_some_iff {part : Value} :
    vars.resolvePath path = some part ↔
      ∃ name v location, Means path name location ∧
        vars.get? name = some v ∧ v.at? location = some part := by
  constructor
  · intro found
    -- Any path is its pieces joined again, and these hold no points.
    obtain ⟨first, steps, pieces⟩ := List.exists_cons_of_ne_nil (Text.splitOn_ne_nil '.' path)
    have whole : path = ['.'].intercalate ((String.ofList first).toList :: steps) := by
      rw [String.toList_ofList, ← pieces, Text.intercalate_splitOn]
    have free : ∀ piece ∈ (String.ofList first).toList :: steps, '.' ∉ piece := by
      rw [String.toList_ofList, ← pieces]
      exact fun piece member => (Text.free_of_mem_splitOn member).1
    rw [whole, vars.resolvePath_intercalate free, Option.bind_eq_some_iff] at found
    obtain ⟨v, bound, walked⟩ := found
    obtain ⟨location, meant, found⟩ := Value.walk?_eq_some_iff.mp walked
    exact ⟨_, v, location, ⟨steps, whole, free, meant⟩, bound, found⟩
  · rintro ⟨name, v, location, ⟨steps, rfl, free, meant⟩, bound, found⟩
    rw [vars.resolvePath_intercalate free, bound, Option.bind_some]
    exact Value.walk?_eq_some_iff.mpr ⟨location, meant, found⟩

end Paths

/-- Paths lead to the values at locations and to nothing else. The path that is written for a
location leads to what is there, unless it goes through an item beyond all positions, of which a
value that is `Indexable` has none. Whatever a path leads to is at a location that it can mean, and
it leads to what is at any of these. One more step leads nowhere exactly if it misses the value that
was reached, and behind a path that leads nowhere no path leads anywhere. -/
theorem paths_walk_values (vars : Variables) :
    (∀ name : String, '.' ∉ name.toList → vars.resolvePath name.toList = vars.get? name) ∧
    (∀ name v location part, '.' ∉ name.toList →
      (∀ key, .key key ∈ location → '.' ∉ key.toList) → vars.get? name = some v →
      v.at? location = some part →
        (v.Indexable → vars.resolvePath (pathTo name location) = some part) ∧
        vars.resolvePath (pathTo name location) =
          if location.all Selector.inReach then some part else none) ∧
    (∀ path part, vars.resolvePath path = some part ↔
      ∃ name v location, Means path name location ∧
        vars.get? name = some v ∧ v.at? location = some part) ∧
    (∀ path v step, vars.resolvePath path = some v → '.' ∉ step →
      (vars.resolvePath (path ++ '.' :: step) = none ↔ v.Misses step)) ∧
    ∀ path more, vars.resolvePath path = none → vars.resolvePath (path ++ '.' :: more) = none := by
  refine ⟨fun _ => vars.resolvePath_name, ?reached, fun _ _ => vars.resolvePath_eq_some_iff,
    ?missed, ?lost⟩
  case reached =>
    intro name v location part free keys bound found
    have walked := vars.resolvePath_pathTo free keys bound found
    refine ⟨fun indexable => ?_, walked⟩
    rw [walked, if_pos (indexable.inReach found)]
  case missed =>
    intro path v step leads free
    rw [vars.resolvePath_append, leads, Option.bind_some, Text.splitOn_of_free free, Value.walk?,
      ← Value.step?_eq_none_iff]
    cases v.step? step with
    | none => exact Iff.rfl
    | some child => exact ⟨nofun, nofun⟩
  case lost =>
    intro path more lost
    rw [vars.resolvePath_append, lost, Option.bind_none]

def stock : Value :=
  .object [("", .string "none"), ("0", .bool true),
    ("data", .array [.null, .object [("id", .whole (.ofUInt16 7))]])]

theorem stock_indexable : stock.Indexable := by
  have leaf {v : Value} (single : v.asArray? = none) (empty : v.children = []) : v.Indexable := by
    refine .of_children ?_ (by simp [empty])
    rintro items rfl
    cases single
  have record : (Value.object [("id", .whole (.ofUInt16 7))]).Indexable :=
    .of_children nofun (List.forall_mem_singleton.mpr (leaf rfl rfl))
  refine .of_children (by rintro _ ⟨⟩) ?_
  rw [stock, Value.children]
  simp only [List.map_cons, List.map_nil, List.forall_mem_cons]
  refine ⟨leaf rfl rfl, leaf rfl rfl, .of_children ?_ ?_, List.forall_mem_nil _⟩
  · rintro _ ⟨⟩
    decide
  · exact List.forall_mem_cons.mpr ⟨leaf rfl rfl, List.forall_mem_singleton.mpr record⟩

def inventory : Variables := Dict.ofList [("list", stock)]

theorem inventory_walked :
    '.' ∉ "list".toList ∧ stock.Indexable ∧
      inventory.resolvePath "list.data.1.id".toList = some (.whole (.ofUInt16 7)) ∧
      inventory.resolvePath "list.".toList = some (.string "none") ∧
      inventory.resolvePath "list.0".toList = some (.bool true) ∧
      inventory.resolvePath "list.data.+01".toList =
        some (.object [("id", .whole (.ofUInt16 7))]) ∧
      inventory.resolvePath "list.data.2".toList = none ∧
      inventory.resolvePath "list.data.2.id".toList = none ∧
      inventory.resolvePath "list.data.18446744073709551616".toList = none := by
  obtain ⟨-, reached, meant, missed, lost⟩ := inventory.paths_walk_values
  have free : '.' ∉ "list".toList := by decide
  have written (location : List Selector) {part : Value}
      (keys : ∀ key, .key key ∈ location → '.' ∉ key.toList)
      (found : stock.at? location = some part) :
      inventory.resolvePath (pathTo "list" location) = some part :=
    (reached "list" stock location part free keys rfl found).1 stock_indexable
  have data : inventory.resolvePath "list.data".toList =
      some (.array [.null, .object [("id", .whole (.ofUInt16 7))]]) :=
    written [.key "data"] (by simp) rfl
  have beyond : inventory.resolvePath "list.data.2".toList = none :=
    (missed _ _ ['2'] data (by decide)).mpr (.beyond (.of_toDigits 2) (by decide))
  have signed : Numeral 1 "+01".toList :=
    ⟨"01".toList, .inr rfl, by decide, Text.forall_of_all rfl, rfl⟩
  refine ⟨free, stock_indexable, ?_, ?_, ?_, ?_, beyond, lost _ "id".toList beyond, ?_⟩
  · exact written [.key "data", .position 1, .key "id"] (by simp) rfl
  · exact written [.key ""] (by simp) rfl
  · exact written [.key "0"] (by simp) rfl
  · exact (meant _ _).mpr ⟨"list", stock, [.key "data", .position 1],
      ⟨["data".toList, "+01".toList], rfl, by decide, .cons rfl (.cons ⟨by decide, signed⟩ .nil)⟩,
      rfl, rfl⟩
  · exact (missed _ _ "18446744073709551616".toList data (by decide)).mpr
      (.tooLarge (.of_toDigits 18446744073709551616) (Nat.le_refl _))

end Variables

end Scenario
