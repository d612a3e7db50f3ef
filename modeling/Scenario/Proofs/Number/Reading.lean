import Mathlib.Data.Int.ConditionallyCompleteOrder
import Mathlib.Order.ConditionallyCompleteLattice.Basic
import Mathlib.Order.WithBot
import Scenario.Number.Reading
/-!
The line of numbers.

What is read from a text has a place on a line, unless it is not a number: whole numbers of ticks,
with an end on either side for the two infinities. Readings are equal or less as their places are.
-/
namespace Scenario.Number.Reading

/-- Whole numbers of ticks between the two infinities. -/
abbrev Place : Type := WithBot (WithTop Int)

/-- Where a reading stands; what is not a number stands nowhere. -/
def place? : Reading → Option Place
  | .notANumber => none
  | .infinite true => some ⊥
  | .infinite false => some (⊤ : WithTop Int)
  | .finite d => some (d.ticks : WithTop Int)

theorem exists_place {r : Reading} (number : r ≠ .notANumber) : ∃ p, r.place? = some p := by
  cases r with
  | notANumber => exact absurd rfl number
  | infinite negative => cases negative <;> exact ⟨_, rfl⟩
  | finite d => exact ⟨_, rfl⟩

theorem same_iff (a b : Reading) :
    a.same b = true ↔ ∃ p, a.place? = some p ∧ b.place? = some p := by
  cases a with
  | notANumber => cases b <;> simp [same, place?]
  | infinite negative =>
    cases b with
    | infinite other => cases negative <;> cases other <;> simp [same, place?]
    | _ => cases negative <;> simp [same, place?]
  | finite d =>
    cases b with
    | infinite other => cases other <;> simp [same, place?]
    | finite e => simp [same, place?, Double.same, eq_comm (a := d.ticks)]
    | notANumber => simp [same, place?]

theorem less_iff (a b : Reading) :
    a.less b = true ↔ ∃ p q, a.place? = some p ∧ b.place? = some q ∧ p < q := by
  cases a with
  | notANumber => cases b <;> simp [less, place?]
  | infinite negative =>
    cases b with
    | infinite other => cases negative <;> cases other <;> simp [less, place?]
    | _ => cases negative <;> simp [less, place?]
  | finite d =>
    have below : ((d.ticks : WithTop Int) : Place) < ⊤ :=
      WithBot.coe_lt_coe.mpr (WithTop.coe_lt_top d.ticks)
    cases b with
    | infinite other => cases other <;> simp [less, place?, below]
    | finite e => simp [less, place?, Double.less]
    | notANumber => simp [less, place?]

end Scenario.Number.Reading
