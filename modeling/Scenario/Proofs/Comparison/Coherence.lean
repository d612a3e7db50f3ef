import Mathlib.Data.List.Count
import Scenario.Comparison
import Scenario.Proofs.Json.Value
import Scenario.Proofs.Number.Reading
/-!
How comparisons fit together.

Equality goes through five kinds of pairs and order through numbers only, yet of two values that
read as numbers one thing is said by both: how their places on the line of numbers lie. `equal_iff`
and `less_iff` are all that the laws of the operators need.
-/
namespace Scenario

open Json (Value)
open Number (Reading)

namespace Json

theorem Number.same_self (n : Number) : n.same n = true := by
  cases n <;> simp [Number.same, Number.Double.same]

theorem Number.same_comm (m n : Number) : m.same n = n.same m := by
  cases m <;> cases n <;> simp [Number.same, Number.Double.same, Bool.beq_comm]

namespace Value

theorem sameItems_self {items : List Value} (all : ∀ item ∈ items, item.same item = true) :
    sameItems items items = true := by
  induction items with
  | nil => rfl
  | cons item items ih =>
    obtain ⟨first, others⟩ := List.forall_mem_cons.mp all
    simp [sameItems, first, ih others]

theorem sameFields_self {fields : List (String × Value)}
    (all : ∀ field ∈ fields, field.2.same field.2 = true) : sameFields fields fields = true := by
  induction fields with
  | nil => rfl
  | cons field fields ih =>
    obtain ⟨first, others⟩ := List.forall_mem_cons.mp all
    simp [sameFields, first, ih others]

theorem same_self (v : Value) : v.same v = true := by
  induction v using Value.induction with
  | null => rfl
  | bool | string => simp [same]
  | number n => exact n.same_self
  | array items ih => exact sameItems_self ih
  | object fields ih => exact sameFields_self ih

theorem sameItems_comm {items : List Value} (all : ∀ item ∈ items, ∀ v, item.same v = v.same item)
    (others : List Value) : sameItems items others = sameItems others items := by
  induction items generalizing others with
  | nil => cases others <;> rfl
  | cons item items ih =>
    obtain ⟨first, later⟩ := List.forall_mem_cons.mp all
    cases others with
    | nil => rfl
    | cons other others => rw [sameItems, sameItems, first, ih later]

theorem sameFields_comm {fields : List (String × Value)}
    (all : ∀ field ∈ fields, ∀ v, field.2.same v = v.same field.2)
    (others : List (String × Value)) : sameFields fields others = sameFields others fields := by
  induction fields generalizing others with
  | nil => cases others <;> rfl
  | cons field fields ih =>
    obtain ⟨first, later⟩ := List.forall_mem_cons.mp all
    cases others with
    | nil => rfl
    | cons other others => rw [sameFields, sameFields, first, ih later, Bool.beq_comm]

theorem same_comm (a b : Value) : a.same b = b.same a := by
  induction a using Value.induction generalizing b with
  | null => cases b <;> rfl
  | bool | string => cases b <;> simp [same, Bool.beq_comm]
  | number n =>
    cases b with
    | number m => exact n.same_comm m
    | _ => rfl
  | array items ih =>
    cases b with
    | array others => exact sameItems_comm ih others
    | _ => rfl
  | object fields ih =>
    cases b with
    | object others => exact sameFields_comm ih others
    | _ => rfl

end Value

end Json

namespace Comparison

variable {a b c : Value} {p q : Reading.Place}

/-- The value is a number, or a text that reads as one between its blanks, but not as NaN. -/
inductive Numeric : Value → Prop where
  | number (n : Json.Number) : Numeric (.number n)
  | text {s : String} {r : Reading} (read : readNumber s = some r) (number : r ≠ .notANumber) :
      Numeric (.string s)

/-- Where a value stands on the line of numbers. -/
def place? (v : Value) : Option Reading.Place := (numberOf v).bind Reading.place?

theorem Numeric.exists_place (numeric : Numeric a) : ∃ p, place? a = some p := by
  cases numeric with
  | number n => exact ⟨_, rfl⟩
  | text read number =>
    obtain ⟨p, stands⟩ := Reading.exists_place number
    exact ⟨p, by simp [place?, numberOf, read, stands]⟩

theorem less_iff (a b : Value) :
    less a b = true ↔ ∃ p q, place? a = some p ∧ place? b = some q ∧ p < q := by
  unfold less place?
  cases numberOf a with
  | none => simp
  | some r =>
    cases numberOf b with
    | none => simp
    | some s => simp [Reading.less_iff]

theorem sameNumber_iff (r s : Option Reading) :
    sameNumber r s = true ↔
      ∃ p, r.bind Reading.place? = some p ∧ s.bind Reading.place? = some p := by
  cases r with
  | none => simp [sameNumber]
  | some r =>
    cases s with
    | none => simp [sameNumber]
    | some s => simp [sameNumber, Reading.same_iff]

theorem sameNumber_comm (r s : Option Reading) : sameNumber r s = sameNumber s r := by
  rw [Bool.eq_iff_iff, sameNumber_iff, sameNumber_iff]
  simp only [and_comm]

theorem coerces_comm (a b : Value) : coerces a b = coerces b a := by
  cases a <;> cases b <;> simp only [coerces]
  all_goals exact sameNumber_comm _ _

/-- Between values that read as numbers nothing but these numbers decides. -/
theorem coerces_eq (first : place? a = some p) (second : place? b = some q) :
    coerces a b = sameNumber (numberOf a) (numberOf b) := by
  cases a with
  | number | string =>
    cases b with
    | number | string => rfl
    | _ => cases second
  | _ => cases first

theorem place?_of_same (same : a.same b = true) : place? a = place? b := by
  cases a with
  | number m =>
    cases b with
    | number n =>
      cases m with
      | whole m =>
        cases n with
        | whole n =>
          have value : m.value = n.value := by simpa [Value.same, Json.Number.same] using same
          simp [place?, numberOf, Json.Number.toDouble, value]
        | double n => cases same
      | double d =>
        cases n with
        | whole n => cases same
        | double e =>
          have ticks : d.ticks = e.ticks := by
            simpa [Value.same, Json.Number.same, Number.Double.same] using same
          simp [place?, numberOf, Json.Number.toDouble, Reading.place?, ticks]
    | _ => cases same
  | string s =>
    cases b with
    | string t =>
      have text : s = t := by simpa [Value.same] using same
      rw [text]
    | _ => cases same
  | _ => cases b <;> first | rfl | cases same

theorem equal_iff (first : place? a = some p) (second : place? b = some q) :
    equal a b = true ↔ p = q := by
  rw [equal, Bool.or_eq_true, coerces_eq first second, sameNumber_iff]
  change _ ∨ (∃ p, place? a = some p ∧ place? b = some p) ↔ _
  constructor
  · rintro (same | ⟨r, atFirst, atSecond⟩)
    · have places := place?_of_same same
      rw [first, second] at places
      exact Option.some.inj places
    · rw [first] at atFirst
      rw [second] at atSecond
      exact Option.some.inj (atFirst.trans atSecond.symm)
  · rintro rfl
    exact .inr ⟨p, first, second⟩

theorem equal_self (a : Value) : equal a a = true := by
  simp [equal, Value.same_self]

theorem equal_comm (a b : Value) : equal a b = equal b a := by
  rw [equal, equal, Value.same_comm, coerces_comm]

theorem less_irrefl (a : Value) : less a a = false := by
  rw [Bool.eq_false_iff, Ne, less_iff]
  rintro ⟨p, q, first, second, before⟩
  rw [first] at second
  cases second
  exact lt_irrefl p before

theorem less_trans (first : less a b = true) (second : less b c = true) : less a c = true := by
  obtain ⟨p, q, atA, atB, before⟩ := (less_iff a b).mp first
  obtain ⟨q', r, atB', atC, after⟩ := (less_iff b c).mp second
  rw [atB] at atB'
  cases atB'
  exact (less_iff a c).mpr ⟨p, r, atA, atC, before.trans after⟩

theorem less_asymm (before : less a b = true) : less b a = false := by
  rw [Bool.eq_false_iff]
  intro after
  have around := less_trans before after
  rw [less_irrefl] at around
  cases around

theorem not_equal_of_less (before : less a b = true) : equal a b = false := by
  obtain ⟨p, q, first, second, before⟩ := (less_iff a b).mp before
  rw [Bool.eq_false_iff, Ne, equal_iff first second]
  exact before.ne

theorem less_iff_of_places (first : place? a = some p) (second : place? b = some q) :
    less a b = true ↔ p < q := by
  simp [less_iff, first, second]

/-- How many of the three comparisons hold. -/
def verdicts (holds : Operator → Value → Value → Bool) (a b : Value) : Nat :=
  [Operator.equals, .lessThan, .greaterThan].countP fun operator => holds operator a b

/-- The laws of comparisons. -/
structure Coherent (holds : Operator → Value → Value → Bool) : Prop where
  equals_self : ∀ a, holds .equals a a = true
  equals_comm : ∀ a b, holds .equals a b = holds .equals b a
  notEquals_eq : ∀ a b, holds .notEquals a b = !holds .equals a b
  greaterThan_eq : ∀ a b, holds .greaterThan a b = holds .lessThan b a
  verdicts_le_one : ∀ a b, verdicts holds a b ≤ 1
  verdicts_eq_one : ∀ a b, Numeric a → Numeric b → verdicts holds a b = 1
  equals_trans : ∀ a b c, Numeric a → Numeric b → Numeric c →
    holds .equals a b = true → holds .equals b c = true → holds .equals a c = true
  lessThan_irrefl : ∀ a, holds .lessThan a a = false
  lessThan_trans : ∀ a b c,
    holds .lessThan a b = true → holds .lessThan b c = true → holds .lessThan a c = true
  lessThan_congr : ∀ a a' b b', Numeric a → Numeric a' → Numeric b → Numeric b' →
    holds .equals a a' = true → holds .equals b b' = true →
      holds .lessThan a b = holds .lessThan a' b'

section Verdicts

variable (a b : Value)

theorem verdicts_holds : verdicts Operator.holds a b =
    (equal a b).toNat + (less a b).toNat + (less b a).toNat := by
  simp only [verdicts, List.countP_cons, List.countP_nil, Operator.holds]
  cases equal a b <;> cases less a b <;> cases less b a <;> rfl

theorem verdicts_le_one : verdicts Operator.holds a b ≤ 1 := by
  rw [verdicts_holds]
  cases before : less a b with
  | true => simp [not_equal_of_less before, less_asymm before]
  | false =>
    cases after : less b a with
    | true => simp [equal_comm a b, not_equal_of_less after]
    | false => cases equal a b <;> simp

end Verdicts

theorem verdicts_eq_one (numeric : Numeric a) (other : Numeric b) :
    verdicts Operator.holds a b = 1 := by
  obtain ⟨p, first⟩ := numeric.exists_place
  obtain ⟨q, second⟩ := other.exists_place
  have least : 0 < verdicts Operator.holds a b := by
    rw [verdicts_holds]
    rcases lt_trichotomy p q with before | same | after
    · simp only [(less_iff_of_places first second).mpr before, Bool.toNat_true]
      omega
    · simp only [(equal_iff first second).mpr same, Bool.toNat_true]
      omega
    · simp only [(less_iff_of_places second first).mpr after, Bool.toNat_true]
      omega
  exact Nat.le_antisymm (verdicts_le_one a b) least

theorem equal_trans (numeric : Numeric a) (middle : Numeric b) (other : Numeric c)
    (first : equal a b = true) (second : equal b c = true) : equal a c = true := by
  obtain ⟨p, atA⟩ := numeric.exists_place
  obtain ⟨q, atB⟩ := middle.exists_place
  obtain ⟨r, atC⟩ := other.exists_place
  rw [equal_iff atA atB] at first
  rw [equal_iff atB atC] at second
  exact (equal_iff atA atC).mpr (first.trans second)

theorem less_congr {a' b' : Value} (numericA : Numeric a) (numericA' : Numeric a')
    (numericB : Numeric b) (numericB' : Numeric b') (first : equal a a' = true)
    (second : equal b b' = true) : less a b = less a' b' := by
  obtain ⟨p, atA⟩ := numericA.exists_place
  obtain ⟨p', atA'⟩ := numericA'.exists_place
  obtain ⟨q, atB⟩ := numericB.exists_place
  obtain ⟨q', atB'⟩ := numericB'.exists_place
  obtain rfl := (equal_iff atA atA').mp first
  obtain rfl := (equal_iff atB atB').mp second
  rw [Bool.eq_iff_iff, less_iff_of_places atA atB, less_iff_of_places atA' atB']

/-- The operators are comparisons: of all values as far as they go, and of numbers altogether. -/
theorem operators_coherent : Coherent Operator.holds where
  equals_self := equal_self
  equals_comm := equal_comm
  notEquals_eq _ _ := rfl
  greaterThan_eq _ _ := rfl
  verdicts_le_one := verdicts_le_one
  verdicts_eq_one _ _ := verdicts_eq_one
  equals_trans _ _ _ := equal_trans
  lessThan_irrefl := less_irrefl
  lessThan_trans _ _ _ := less_trans
  lessThan_congr _ _ _ _ := less_congr

/-- A text, a number and a power of ten that all write one, and an infinity above them. -/
theorem ones_coherent :
    let padded := Value.string " +1.0 "
    let power := Value.string "10e-1"
    let one := Value.number (.whole ⟨1, by decide⟩)
    let infinity := Value.string "Infinity"
    (Numeric padded ∧ Numeric one ∧ Numeric power ∧ Numeric infinity) ∧
      Operator.equals.holds padded one = true ∧ Operator.equals.holds one power = true ∧
      Operator.equals.holds padded power = true ∧
      verdicts Operator.holds padded infinity = 1 ∧
      Operator.lessThan.holds padded infinity = Operator.lessThan.holds power infinity := by
  have reads (s : String) (stands : (readNumber s).any (· ≠ .notANumber) = true) :
      Numeric (.string s) := by
    obtain ⟨r, read, number⟩ := (Option.any_eq_true _ _).mp stands
    exact .text read (of_decide_eq_true number)
  have padded := reads " +1.0 " (by decide +kernel)
  have power := reads "10e-1" (by decide +kernel)
  have infinity := reads "Infinity" (by decide +kernel)
  have one := Numeric.number (.whole ⟨1, by decide⟩)
  have first : Operator.equals.holds (.string " +1.0 ") (.number (.whole ⟨1, by decide⟩)) =
      true := by decide +kernel
  have second : Operator.equals.holds (.number (.whole ⟨1, by decide⟩)) (.string "10e-1") =
      true := by decide +kernel
  have both := operators_coherent.equals_trans _ _ _ padded one power first second
  exact ⟨⟨padded, one, power, infinity⟩, first, second, both,
    operators_coherent.verdicts_eq_one _ _ padded infinity,
    operators_coherent.lessThan_congr _ _ _ _ padded power infinity infinity both
      (operators_coherent.equals_self _)⟩

end Comparison
end Scenario
