import Mathlib.Data.List.Basic
import Scenario.Number.Natural
/-!
Numerals.

What is read as a natural number is a numeral: decimal digits with any zeros in front, and at most
one plus sign before them. A numeral is read as its number if that is below the bound, and no other
text is read.
-/
namespace Scenario.Number

theorem foldl_digits_eq (digits : List Char) (start : Nat) :
    digits.foldl (fun n c => n * 10 + (c.toNat - '0'.toNat)) start =
      Nat.ofDigitChars 10 digits start := by
  induction digits generalizing start with
  | nil => rfl
  | cons c digits ih => rw [List.foldl_cons, ih, Nat.ofDigitChars_cons, Nat.mul_comm]

/-- The text is the number in decimal digits, with or without a plus sign. -/
def Numeral (n : Nat) (text : List Char) : Prop :=
  ∃ digits, (text = digits ∨ text = '+' :: digits) ∧ digits ≠ [] ∧
    (∀ c ∈ digits, c.isDigit = true) ∧ Nat.ofDigitChars 10 digits 0 = n

theorem Numeral.of_toDigits (n : Nat) : Numeral n (Nat.toDigits 10 n) :=
  ⟨_, .inl rfl, Nat.toDigits_ne_nil,
    fun _ member => Nat.isDigit_of_mem_toDigits (by decide) (by decide) member,
    Nat.ofDigitChars_toDigits (by decide) (by decide)⟩

variable {bound n : Nat} {text digits : List Char}

theorem naturalBelow?_plus (bound : Nat) (digits : List Char) :
    naturalBelow? bound ('+' :: digits) =
      if digits.isEmpty || digits.any (fun c => !c.isDigit) then none
      else if Nat.ofDigitChars 10 digits 0 < bound then some (Nat.ofDigitChars 10 digits 0)
      else none := by
  rw [← foldl_digits_eq]
  rfl

theorem naturalBelow?_of_unsigned (unsigned : text.head? ≠ some '+') :
    naturalBelow? bound text = naturalBelow? bound ('+' :: text) := by
  unfold naturalBelow?
  split
  · exact absurd rfl unsigned
  · rfl

theorem naturalBelow?_of_numeral (numeral : Numeral n text) :
    naturalBelow? bound text = if n < bound then some n else none := by
  obtain ⟨digits, written, some, all, rfl⟩ := numeral
  have signed : naturalBelow? bound text = naturalBelow? bound ('+' :: digits) := by
    rcases written with rfl | rfl
    · -- No digit is a plus sign.
      refine naturalBelow?_of_unsigned fun plus => ?_
      have digit := all '+' (List.mem_of_mem_head? plus)
      exact absurd digit (by decide)
    · rfl
  have proper : (digits.isEmpty || digits.any (fun c => !c.isDigit)) = false := by
    simpa [some] using all
  rw [signed, naturalBelow?_plus, proper, if_neg Bool.false_ne_true]

theorem numeral_of_naturalBelow? (read : naturalBelow? bound text = some n) : Numeral n text := by
  obtain ⟨digits, written, signed⟩ : ∃ digits, (text = digits ∨ text = '+' :: digits) ∧
      naturalBelow? bound ('+' :: digits) = some n := by
    by_cases plus : text.head? = some '+'
    · obtain ⟨digits, rfl⟩ := List.head?_eq_some_iff.mp plus
      exact ⟨digits, .inr rfl, read⟩
    · exact ⟨text, .inl rfl, naturalBelow?_of_unsigned plus ▸ read⟩
  rw [naturalBelow?_plus] at signed
  split at signed
  · cases signed
  · rename_i proper
    split at signed
    · cases signed
      simp only [Bool.or_eq_true, List.isEmpty_iff, List.any_eq_true, Bool.not_eq_true', not_or,
        not_exists, not_and, Bool.not_eq_false] at proper
      exact ⟨digits, written, proper.1, proper.2, rfl⟩
    · cases signed

theorem naturalBelow?_eq_some_iff :
    naturalBelow? bound text = some n ↔ n < bound ∧ Numeral n text := by
  constructor
  · intro read
    have numeral := numeral_of_naturalBelow? read
    rw [naturalBelow?_of_numeral numeral] at read
    exact ⟨(Option.ite_none_right_eq_some.mp read).1, numeral⟩
  · rintro ⟨below, numeral⟩
    rw [naturalBelow?_of_numeral numeral, if_pos below]

/-- A text is not read if it is no numeral, or the numeral of a number that is too large. -/
theorem naturalBelow?_eq_none_iff :
    naturalBelow? bound text = none ↔ ∀ n, Numeral n text → bound ≤ n := by
  constructor
  · intro unread n numeral
    rw [naturalBelow?_of_numeral numeral] at unread
    exact Nat.le_of_not_lt fun below => by simp [below] at unread
  · intro large
    cases read : naturalBelow? bound text with
    | none => rfl
    | some n =>
      obtain ⟨below, numeral⟩ := naturalBelow?_eq_some_iff.mp read
      exact absurd (large n numeral) (Nat.not_le_of_lt below)

end Scenario.Number
