import Mathlib.Data.Nat.Log
import Mathlib.Tactic.Ring
import Scenario.Number.Double
/-!
Rounding to doubles.

A ratio is rounded to so many ticks, whatever range they are in; it has a double exactly if these
are fewer than `ticksBound`. Rounding keeps the order of ratios, so a ratio that is less than one
that has a double has one as well.
-/
namespace Scenario.Number.Double

section Halves

variable {a b d k : Nat}

theorem roundHalfEven_mono (le : a ≤ b) : roundHalfEven a d ≤ roundHalfEven b d := by
  have quotients : a / d ≤ b / d := Nat.div_le_div_right le
  have first := Nat.div_add_mod a d
  have second := Nat.div_add_mod b d
  unfold roundHalfEven
  dsimp only
  rcases Nat.lt_or_eq_of_le quotients with less | same
  · split_ifs <;> omega
  · rw [same] at first ⊢
    split_ifs <;> omega

theorem roundHalfEven_mul (positive : 0 < d) : roundHalfEven (k * d) d = k := by
  unfold roundHalfEven
  simp [positive]

theorem roundHalfEven_le (positive : 0 < d) (le : a ≤ k * d) : roundHalfEven a d ≤ k :=
  (roundHalfEven_mono le).trans_eq (roundHalfEven_mul positive)

theorem le_roundHalfEven (positive : 0 < d) (le : k * d ≤ a) : k ≤ roundHalfEven a d :=
  (roundHalfEven_mul positive).symm.trans_le (roundHalfEven_mono le)

end Halves

theorem unit_pos : 0 < unit := by decide +kernel

/-- One more than the ticks that a double can have. -/
def ticksBound : Nat := mantissaBound * 2 ^ greatestShift

/-- The binary places that are given up when a ratio is rounded. -/
def roundedShift (numerator denominator : Nat) : Nat :=
  Nat.log2 (numerator * unit / denominator) - 52

def roundedMantissa (numerator denominator : Nat) : Nat :=
  roundHalfEven (numerator * unit) (denominator * 2 ^ roundedShift numerator denominator)

/-- The ticks to which a ratio is rounded. -/
def roundedTicks (numerator denominator : Nat) : Nat :=
  roundedMantissa numerator denominator * 2 ^ roundedShift numerator denominator

variable {negative : Bool} {numerator greater denominator : Nat}

theorem roundedMantissa_le (positive : 0 < denominator) :
    roundedMantissa numerator denominator ≤ mantissaBound := by
  apply roundHalfEven_le (Nat.mul_pos positive (Nat.two_pow_pos _))
  have floor : numerator * unit / denominator <
      2 ^ (53 + roundedShift numerator denominator) := by
    refine Nat.lt_of_lt_of_le Nat.lt_log2_self (Nat.pow_le_pow_right (by decide) ?_)
    unfold roundedShift
    omega
  have ticks := (Nat.div_lt_iff_lt_mul positive).mp floor
  rw [Nat.pow_add] at ticks
  have bound : mantissaBound = 2 ^ 53 := by decide
  rw [bound]
  calc numerator * unit ≤ 2 ^ 53 * 2 ^ roundedShift numerator denominator * denominator :=
        Nat.le_of_lt ticks
    _ = 2 ^ 53 * (denominator * 2 ^ roundedShift numerator denominator) := by ring

/-- Places are given up only if there are enough without them. -/
theorem fullMantissa_mul_le (positive : 0 < denominator)
    (shifted : 0 < roundedShift numerator denominator) :
    fullMantissa * (denominator * 2 ^ roundedShift numerator denominator) ≤ numerator * unit := by
  have log : Nat.log2 (numerator * unit / denominator) =
      52 + roundedShift numerator denominator := by
    unfold roundedShift at shifted ⊢
    omega
  have nonzero : numerator * unit / denominator ≠ 0 := by
    intro zero
    rw [zero, Nat.log2_zero] at log
    omega
  have floor := Nat.log2_self_le nonzero
  rw [log, Nat.pow_add] at floor
  have ticks := (Nat.le_div_iff_mul_le positive).mp floor
  have bound : fullMantissa = 2 ^ 52 := by decide
  rw [bound]
  calc 2 ^ 52 * (denominator * 2 ^ roundedShift numerator denominator)
      = 2 ^ 52 * 2 ^ roundedShift numerator denominator * denominator := by ring
    _ ≤ numerator * unit := ticks

theorem le_roundedMantissa (positive : 0 < denominator)
    (shifted : 0 < roundedShift numerator denominator) :
    fullMantissa ≤ roundedMantissa numerator denominator :=
  le_roundHalfEven (Nat.mul_pos positive (Nat.two_pow_pos _)) (fullMantissa_mul_le positive shifted)

theorem roundedShift_mono (denominator : Nat) (le : numerator ≤ greater) :
    roundedShift numerator denominator ≤ roundedShift greater denominator := by
  have quotients : numerator * unit / denominator ≤ greater * unit / denominator :=
    Nat.div_le_div_right (Nat.mul_le_mul_right unit le)
  have logs : Nat.log2 (numerator * unit / denominator) ≤
      Nat.log2 (greater * unit / denominator) := by
    rw [Nat.log2_eq_log_two, Nat.log2_eq_log_two]
    exact Nat.log_mono_right quotients
  unfold roundedShift
  omega

theorem roundedTicks_mono (positive : 0 < denominator) (le : numerator ≤ greater) :
    roundedTicks numerator denominator ≤ roundedTicks greater denominator := by
  unfold roundedTicks
  rcases Nat.lt_or_eq_of_le (roundedShift_mono denominator le) with less | same
  · -- Rounding up reaches the next power of two at most, and the greater ratio has that much.
    have full : fullMantissa ≤ roundedMantissa greater denominator :=
      le_roundedMantissa positive (Nat.zero_lt_of_lt less)
    calc roundedMantissa numerator denominator * 2 ^ roundedShift numerator denominator
        ≤ mantissaBound * 2 ^ roundedShift numerator denominator :=
          Nat.mul_le_mul_right _ (roundedMantissa_le positive)
      _ = fullMantissa * 2 ^ (roundedShift numerator denominator + 1) := by
          rw [Nat.pow_succ, show mantissaBound = fullMantissa * 2 from rfl]
          ring
      _ ≤ fullMantissa * 2 ^ roundedShift greater denominator :=
          Nat.mul_le_mul_left _ (Nat.pow_le_pow_right (by decide) less)
      _ ≤ roundedMantissa greater denominator * 2 ^ roundedShift greater denominator :=
          Nat.mul_le_mul_right _ full
  · rw [same]
    apply Nat.mul_le_mul_right
    unfold roundedMantissa
    rw [same]
    exact roundHalfEven_mono (Nat.mul_le_mul_right unit le)

section Forms

variable {mantissa shift : Nat}

theorem size_of_ofForm? {d : Double} (found : ofForm? negative mantissa shift = some d) :
    d.size = mantissa * 2 ^ shift := by
  have ticks : (if mantissa = mantissaBound then (fullMantissa, shift + 1)
      else (mantissa, shift)).1 * 2 ^ (if mantissa = mantissaBound then (fullMantissa, shift + 1)
      else (mantissa, shift)).2 = mantissa * 2 ^ shift := by
    split_ifs with carried
    · rw [carried, show mantissaBound = fullMantissa * 2 from rfl, Nat.pow_succ]
      ring
    · rfl
  unfold ofForm? at found
  dsimp only at found
  generalize (if mantissa = mantissaBound then (fullMantissa, shift + 1)
    else (mantissa, shift)) = form at found ticks
  split at found
  · cases found
    exact ticks
  · cases found

theorem size_lt (d : Double) : d.size < ticksBound := by
  obtain ⟨few, low, -⟩ := d.canonical
  have places : 2 ^ d.shift ≤ 2 ^ greatestShift := Nat.pow_le_pow_right (by decide) low
  calc d.mantissa * 2 ^ d.shift
      < mantissaBound * 2 ^ d.shift := Nat.mul_lt_mul_of_pos_right few (Nat.two_pow_pos _)
    _ ≤ mantissaBound * 2 ^ greatestShift := Nat.mul_le_mul_left _ places

theorem shift_le_of_lt {greatest : Nat} (full : fullMantissa ≤ mantissa)
    (inRange : mantissa * 2 ^ shift < mantissaBound * 2 ^ greatest) : shift ≤ greatest := by
  by_contra high
  have places : 2 ^ (greatest + 1) ≤ 2 ^ shift := Nat.pow_le_pow_right (by decide) (by omega)
  have much : fullMantissa * 2 ^ (greatest + 1) ≤ mantissa * 2 ^ shift := Nat.mul_le_mul full places
  rw [Nat.pow_succ, Nat.mul_comm (2 ^ greatest), ← Nat.mul_assoc] at much
  exact absurd inRange (Nat.not_lt.mpr much)

theorem shift_lt_of_lt {greatest : Nat}
    (inRange : mantissaBound * 2 ^ shift < mantissaBound * 2 ^ greatest) : shift < greatest :=
  (Nat.pow_lt_pow_iff_right Nat.one_lt_two).mp (Nat.lt_of_mul_lt_mul_left inRange)

theorem ofForm?_of_lt (few : mantissa ≤ mantissaBound)
    (full : 0 < shift → fullMantissa ≤ mantissa) (inRange : mantissa * 2 ^ shift < ticksBound) :
    ∃ d, ofForm? negative mantissa shift = some d := by
  have canonical : Canonical (if mantissa = mantissaBound then (fullMantissa, shift + 1)
      else (mantissa, shift)).1 (if mantissa = mantissaBound then (fullMantissa, shift + 1)
      else (mantissa, shift)).2 := by
    rw [ticksBound] at inRange
    split_ifs with carried
    · rw [carried] at inRange
      have less : fullMantissa < mantissaBound := by decide
      exact ⟨less, shift_lt_of_lt inRange, .inr (Nat.le_refl _)⟩
    · have less : mantissa < mantissaBound := Nat.lt_of_le_of_ne few carried
      rcases Nat.eq_zero_or_pos shift with zero | positive
      · exact ⟨less, zero ▸ Nat.zero_le _, .inl zero⟩
      · exact ⟨less, shift_le_of_lt (full positive) inRange, .inr (full positive)⟩
  unfold ofForm?
  exact ⟨_, dif_pos canonical⟩

end Forms

theorem size_of_ofRatio {d : Double} (found : ofRatio negative numerator denominator = some d) :
    d.size = roundedTicks numerator denominator :=
  size_of_ofForm? found

/-- A ratio has a double exactly if the ticks to which it is rounded are in range. -/
theorem ofRatio_of_lt (positive : 0 < denominator)
    (inRange : roundedTicks numerator denominator < ticksBound) :
    ∃ d, ofRatio negative numerator denominator = some d :=
  ofForm?_of_lt (roundedMantissa_le positive) (le_roundedMantissa positive) inRange

/-- What is no greater than a ratio that has a double has one that is no greater. -/
theorem ofRatio_mono (positive : 0 < denominator) (le : numerator ≤ greater) {bound : Double}
    {other : Bool} (found : ofRatio other greater denominator = some bound) :
    ∃ d, ofRatio negative numerator denominator = some d ∧ d.size ≤ bound.size := by
  have ticks := roundedTicks_mono positive le
  rw [← size_of_ofRatio found] at ticks
  obtain ⟨d, rounded⟩ := ofRatio_of_lt positive (Nat.lt_of_le_of_lt ticks bound.size_lt)
  exact ⟨d, rounded, (size_of_ofRatio rounded).trans_le ticks⟩

end Scenario.Number.Double
