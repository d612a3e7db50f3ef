import Scenario.Dict
import Scenario.Json.Number
/-!
JSON values.

An object holds its fields as a list. In a value that was read or built by this library the fields
of every object ascend by key (`Value.Ordered`), and `normalize` puts any value into that form.
-/
namespace Scenario.Json

inductive Value where
  | null
  | bool (b : Bool)
  | number (n : Number)
  | string (s : String)
  | array (items : List Value)
  | object (fields : List (String × Value))

namespace Value

instance : Inhabited Value := ⟨.null⟩

mutual
def decEq : (a b : Value) → Decidable (a = b)
  | .null, .null => .isTrue rfl
  | .bool a, .bool b =>
    if h : a = b then .isTrue (h ▸ rfl) else .isFalse fun e => h (by injection e)
  | .number a, .number b =>
    if h : a = b then .isTrue (h ▸ rfl) else .isFalse fun e => h (by injection e)
  | .string a, .string b =>
    if h : a = b then .isTrue (h ▸ rfl) else .isFalse fun e => h (by injection e)
  | .array a, .array b =>
    match decEqItems a b with
    | .isTrue h => .isTrue (h ▸ rfl)
    | .isFalse h => .isFalse fun e => h (by injection e)
  | .object a, .object b =>
    match decEqFields a b with
    | .isTrue h => .isTrue (h ▸ rfl)
    | .isFalse h => .isFalse fun e => h (by injection e)
  | .null, .bool _ | .null, .number _ | .null, .string _ | .null, .array _ | .null, .object _
  | .bool _, .null | .bool _, .number _ | .bool _, .string _ | .bool _, .array _
  | .bool _, .object _ | .number _, .null | .number _, .bool _ | .number _, .string _
  | .number _, .array _ | .number _, .object _ | .string _, .null | .string _, .bool _
  | .string _, .number _ | .string _, .array _ | .string _, .object _ | .array _, .null
  | .array _, .bool _ | .array _, .number _ | .array _, .string _ | .array _, .object _
  | .object _, .null | .object _, .bool _ | .object _, .number _ | .object _, .string _
  | .object _, .array _ => .isFalse (by intro h; cases h)

def decEqItems : (a b : List Value) → Decidable (a = b)
  | [], [] => .isTrue rfl
  | x :: xs, y :: ys =>
    match decEq x y, decEqItems xs ys with
    | .isTrue h, .isTrue t => .isTrue (by rw [h, t])
    | .isFalse h, _ => .isFalse fun e => h (by injection e)
    | _, .isFalse t => .isFalse fun e => t (by injection e)
  | [], _ :: _ | _ :: _, [] => .isFalse (by intro h; cases h)

def decEqFields : (a b : List (String × Value)) → Decidable (a = b)
  | [], [] => .isTrue rfl
  | (j, x) :: xs, (k, y) :: ys =>
    match decEq x y, decEqFields xs ys with
    | .isTrue h, .isTrue t =>
      if same : j = k then .isTrue (by rw [h, t, same])
      else .isFalse fun e => same (by injection e with e; injection e)
    | .isFalse h, _ => .isFalse fun e => h (by injection e with e; injection e)
    | _, .isFalse t => .isFalse fun e => t (by injection e)
  | [], _ :: _ | _ :: _, [] => .isFalse (by intro h; cases h)
end

instance : DecidableEq Value := decEq

def ofFields (fields : List (String × Value)) : Value := .object (Entries.ofList fields)

def ofDict (fields : Dict Value) : Value := .object fields.entries

def whole (n : Whole) : Value := .number (.whole n)

def asString? : Value → Option String
  | .string s => some s
  | _ => none

def asArray? : Value → Option (List Value)
  | .array items => some items
  | _ => none

/-- The value of a field; none for a value that is no object. -/
def field? (key : String) : Value → Option Value
  | .object fields => Entries.get? fields key
  | _ => none

mutual
/-- Every object with its fields in order, the last of several with one key. -/
def normalize : Value → Value
  | .array items => .array (normalizeItems items)
  | .object fields => .object (Entries.ofList (normalizeFields fields))
  | value => value

def normalizeItems : List Value → List Value
  | [] => []
  | item :: items => normalize item :: normalizeItems items

def normalizeFields : List (String × Value) → List (String × Value)
  | [] => []
  | (key, value) :: fields => (key, normalize value) :: normalizeFields fields
end

mutual
/-- In every object the keys ascend. -/
def Ordered : Value → Prop
  | .array items => OrderedItems items
  | .object fields => Entries.Ascending fields ∧ OrderedFields fields
  | _ => True

def OrderedItems : List Value → Prop
  | [] => True
  | item :: items => Ordered item ∧ OrderedItems items

def OrderedFields : List (String × Value) → Prop
  | [] => True
  | (_, value) :: fields => Ordered value ∧ OrderedFields fields
end

mutual
/-- Equality that takes doubles by their values, so that the two zeros are equal. -/
def same : Value → Value → Bool
  | .null, .null => true
  | .bool a, .bool b => a == b
  | .number a, .number b => a.same b
  | .string a, .string b => a == b
  | .array a, .array b => sameItems a b
  | .object a, .object b => sameFields a b
  | _, _ => false

def sameItems : List Value → List Value → Bool
  | [], [] => true
  | a :: as, b :: bs => same a b && sameItems as bs
  | _, _ => false

def sameFields : List (String × Value) → List (String × Value) → Bool
  | [], [] => true
  | (j, a) :: as, (k, b) :: bs => j == k && same a b && sameFields as bs
  | _, _ => false
end

mutual
/-- How many arrays and objects enclose the innermost value, the value itself included. -/
def nesting : Value → Nat
  | .array items => nestingItems items + 1
  | .object fields => nestingFields fields + 1
  | _ => 0

def nestingItems : List Value → Nat
  | [] => 0
  | item :: items => max (nesting item) (nestingItems items)

def nestingFields : List (String × Value) → Nat
  | [] => 0
  | (_, value) :: fields => max (nesting value) (nestingFields fields)
end

end Value

end Scenario.Json
