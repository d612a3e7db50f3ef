import Mathlib.Algebra.Order.Field.Power
import Mathlib.Data.Rat.Cast.Order
import Mathlib.Tactic.FieldSimp
import Mathlib.Tactic.Linarith
import Mathlib.Tactic.NormNum
import Mathlib.Tactic.Positivity
import Scenario.Number.Shortest
import Scenario.Proofs.Number.Rounding
/-!
How great the shortest decimal of a double is.

It has seventeen digits at most, or is the power of ten above them, and it is not beyond the upper
end of the interval of reals that round to the double.
-/
namespace Scenario.Number

namespace Decimal

def value (d : Decimal) : ℚ := d.digits * 10 ^ d.exponent

theorem value_stripUpTo (fuel : Nat) (d : Decimal) : (stripUpTo fuel d).value = d.value := by
  induction fuel generalizing d with
  | zero => rfl
  | succ fuel ih =>
    rw [stripUpTo]
    split
    · rename_i zeros
      have whole : d.digits = 10 * (d.digits / 10) := by omega
      have digits : (d.digits : ℚ) = 10 * (d.digits / 10 : Nat) := by exact_mod_cast whole
      rw [ih, value, value, digits, zpow_add_one₀ (by norm_num)]
      ring
    · rfl

theorem digits_stripUpTo_le (fuel : Nat) (d : Decimal) :
    (stripUpTo fuel d).digits ≤ d.digits := by
  induction fuel generalizing d with
  | zero => rfl
  | succ fuel ih =>
    rw [stripUpTo]
    split
    · exact (ih _).trans (Nat.div_le_self d.digits 10)
    · rfl

end Decimal

namespace Double

theorem tenPow_toNat (e : Int) :
    ((Nat.pow 10 e.toNat : Nat) : ℚ) = 10 ^ e * (Nat.pow 10 (-e).toNat : Nat) := by
  rcases Int.le_total 0 e with up | down
  · lift e to Nat using up
    simp
  · obtain ⟨n, same⟩ := Int.eq_ofNat_of_zero_le (neg_nonneg.mpr down)
    obtain rfl : e = -(n : Int) := by omega
    simp

section Leading

variable {n d : Nat}

theorem repr_bounds (positive : 0 < n) :
    (10 : ℚ) ^ ((Nat.repr n).length - 1 : Int) ≤ n ∧
      (n : ℚ) < 10 ^ ((Nat.repr n).length : Int) := by
  have some : 0 < (Nat.repr n).length := Nat.length_repr_pos
  have high : n < 10 ^ (Nat.repr n).length := (Nat.length_repr_le_iff some).mp (Nat.le_refl _)
  have low : 10 ^ ((Nat.repr n).length - 1) ≤ n := by
    rcases Nat.eq_or_lt_of_le some with one | several
    · rw [← one]
      exact positive
    · by_contra small
      have shorter :=
        (Nat.length_repr_le_iff (Nat.sub_pos_of_lt several)).mpr (Nat.lt_of_not_le small)
      omega
  constructor
  · have exponent : ((Nat.repr n).length - 1 : Int) = ((Nat.repr n).length - 1 : Nat) := by omega
    rw [exponent, zpow_natCast]
    exact_mod_cast low
  · rw [zpow_natCast]
    exact_mod_cast high

/-- The exponent of the first digit says between which powers of ten a ratio lies. -/
theorem leadingExponent_spec (numerator : 0 < n) (denominator : 0 < d) :
    (10 : ℚ) ^ leadingExponent n d ≤ n / d ∧ (n : ℚ) / d < 10 ^ (leadingExponent n d + 1) := by
  obtain ⟨lowN, highN⟩ := repr_bounds numerator
  obtain ⟨lowD, highD⟩ := repr_bounds denominator
  have positive : (0 : ℚ) < d := by exact_mod_cast denominator
  have ten : (0 : ℚ) < 10 := by norm_num
  generalize found : ((Nat.repr n).length : Int) - (Nat.repr d).length = guess
  -- The lengths leave two candidates, and one comparison tells them apart.
  have above : (n : ℚ) / d < 10 ^ (guess + 1) := by
    rw [div_lt_iff₀ positive]
    calc (n : ℚ) < 10 ^ ((Nat.repr n).length : Int) := highN
      _ = 10 ^ (guess + 1) * 10 ^ ((Nat.repr d).length - 1 : Int) := by
          rw [← zpow_add₀ ten.ne', ← found]
          ring_nf
      _ ≤ 10 ^ (guess + 1) * d := mul_le_mul_of_nonneg_left lowD (zpow_pos ten _).le
  have below : (10 : ℚ) ^ (guess - 1) ≤ n / d := by
    rw [le_div_iff₀ positive]
    calc (10 : ℚ) ^ (guess - 1) * d ≤ 10 ^ (guess - 1) * 10 ^ ((Nat.repr d).length : Int) :=
          mul_le_mul_of_nonneg_left highD.le (zpow_pos ten _).le
      _ = 10 ^ ((Nat.repr n).length - 1 : Int) := by
          rw [← zpow_add₀ ten.ne', ← found]
          ring_nf
      _ ≤ n := lowN
  have reached : (if 0 ≤ guess then decide (d * Nat.pow 10 guess.toNat ≤ n)
      else decide (d ≤ n * Nat.pow 10 (-guess).toNat)) = true ↔ (10 : ℚ) ^ guess ≤ n / d := by
    rw [le_div_iff₀ positive]
    split_ifs with up
    · lift guess to Nat using up
      rw [decide_eq_true_iff, ← Nat.cast_le (α := ℚ)]
      simp [mul_comm]
    · obtain ⟨k, same⟩ := Int.eq_ofNat_of_zero_le (neg_nonneg.mpr (not_le.mp up).le)
      obtain rfl : guess = -(k : Int) := by omega
      rw [decide_eq_true_iff, ← Nat.cast_le (α := ℚ), zpow_neg, zpow_natCast,
        inv_mul_le_iff₀ (pow_pos ten k)]
      simp [mul_comm]
  unfold leadingExponent
  dsimp only
  rw [found]
  generalize (if 0 ≤ guess then decide (d * Nat.pow 10 guess.toNat ≤ n)
    else decide (d ≤ n * Nat.pow 10 (-guess).toNat)) = flag at reached ⊢
  cases flag with
  | true => exact ⟨reached.mp rfl, above⟩
  | false =>
    refine ⟨below, ?_⟩
    rw [if_neg Bool.false_ne_true, sub_add_cancel]
    exact lt_of_not_ge fun le => Bool.false_ne_true (reached.mpr le)

end Leading

section Grid

variable {i : Interval} {e : Int} {decimal : Decimal}

theorem Interval.le_of_holds {point denominator : Nat} (holds : i.holds point denominator = true) :
    point * i.scale ≤ i.high * denominator := by
  unfold Interval.holds at holds
  dsimp only at holds
  split at holds
  · simp only [Bool.and_eq_true, decide_eq_true_eq] at holds
    exact holds.2
  · simp only [Bool.and_eq_true, decide_eq_true_eq] at holds
    exact holds.2.le

/-- A grid point is the value rounded down or the next one, and lies in the interval. -/
theorem Interval.gridPoint_spec (found : i.gridPoint e = some decimal) :
    decimal.exponent = e ∧
      (decimal.digits = i.value * Nat.pow 10 (-e).toNat / (i.scale * Nat.pow 10 e.toNat) ∨
        decimal.digits = i.value * Nat.pow 10 (-e).toNat / (i.scale * Nat.pow 10 e.toNat) + 1) ∧
      decimal.digits * Nat.pow 10 e.toNat * i.scale ≤ i.high * Nat.pow 10 (-e).toNat := by
  unfold Interval.gridPoint at found
  dsimp only at found
  generalize i.value * Nat.pow 10 (-e).toNat / (i.scale * Nat.pow 10 e.toNat) = floor at found ⊢
  split at found
  · rename_i both
    rw [Bool.and_eq_true] at both
    cases found
    refine ⟨rfl, ?_, ?_⟩
    · split_ifs <;> simp
    · split_ifs
      · exact le_of_holds both.2
      · exact le_of_holds both.1
  · split at found
    · rename_i lower
      cases found
      exact ⟨rfl, .inl rfl, le_of_holds lower⟩
    · split at found
      · rename_i upper
        cases found
        exact ⟨rfl, .inr rfl, le_of_holds upper⟩
      · cases found

end Grid

section Floor

variable {n d : Nat} {e : Int}

/-- A fraction that reaches a power of ten is not rounded down to zero on its grid. -/
theorem floor_pos (positive : 0 < d) (reach : (10 : ℚ) ^ e ≤ n / d) :
    0 < n * Nat.pow 10 (-e).toNat / (d * Nat.pow 10 e.toNat) := by
  refine Nat.div_pos ?_ (Nat.mul_pos positive (Nat.pow_pos (by decide)))
  have down : (0 : ℚ) ≤ (Nat.pow 10 (-e).toNat : Nat) := Nat.cast_nonneg _
  rw [le_div_iff₀ (by exact_mod_cast positive)] at reach
  have scaled : (d : ℚ) * (Nat.pow 10 e.toNat : Nat) ≤ n * (Nat.pow 10 (-e).toNat : Nat) := by
    rw [tenPow_toNat e]
    nlinarith
  exact_mod_cast scaled

/-- A fraction below so many powers of ten is rounded down to fewer on its grid. -/
theorem floor_lt {bound : Nat} (positive : 0 < d) (below : (n / d : ℚ) < bound * 10 ^ e) :
    n * Nat.pow 10 (-e).toNat / (d * Nat.pow 10 e.toNat) < bound := by
  refine (Nat.div_lt_iff_lt_mul (Nat.mul_pos positive (Nat.pow_pos (by decide)))).mpr ?_
  have down : (0 : ℚ) < (Nat.pow 10 (-e).toNat : Nat) := by
    exact_mod_cast Nat.pow_pos (by decide)
  rw [div_lt_iff₀ (by exact_mod_cast positive)] at below
  have scaled : (n : ℚ) * (Nat.pow 10 (-e).toNat : Nat) <
      bound * (d * (Nat.pow 10 e.toNat : Nat)) := by
    rw [tenPow_toNat e]
    nlinarith
  exact_mod_cast scaled

end Floor

/-- The tried grids have a point of seventeen digits at most, none of which is zero. -/
theorem Interval.gridPoint_bounds {i : Interval} {n : Nat} {decimal : Decimal}
    (value : 0 < i.value) (scale : 0 < i.scale) (few : n < 17)
    (found : i.gridPoint (leadingExponent i.value i.scale - n) = some decimal) :
    0 < decimal.digits ∧ decimal.digits ≤ 10 ^ 17 ∧ decimal.value * i.scale ≤ i.high := by
  obtain ⟨low, high⟩ := leadingExponent_spec value scale
  obtain ⟨exponent, rounded, inside⟩ := Interval.gridPoint_spec found
  generalize leadingExponent i.value i.scale = first at *
  have positive := floor_pos scale ((zpow_le_zpow_right₀ (by norm_num) (by omega)).trans low :
    (10 : ℚ) ^ (first - n) ≤ i.value / i.scale)
  have digits : (10 : ℚ) ^ (first + 1) = (10 ^ (n + 1) : Nat) * 10 ^ (first - n) := by
    rw [Nat.cast_pow, Nat.cast_ofNat, ← zpow_natCast, ← zpow_add₀ (by norm_num)]
    congr 1
    push_cast
    ring
  have short := (floor_lt scale (digits ▸ high)).trans_le
    (Nat.pow_le_pow_right (by decide) (by omega) : 10 ^ (n + 1) ≤ 10 ^ 17)
  refine ⟨by omega, by omega, ?_⟩
  have insideQ : (decimal.digits : ℚ) * (Nat.pow 10 (first - n).toNat : Nat) * i.scale ≤
      i.high * (Nat.pow 10 (-(first - n)).toNat : Nat) := by
    exact_mod_cast inside
  rw [tenPow_toNat] at insideQ
  rw [Decimal.value, exponent]
  refine le_of_mul_le_mul_right ?_ (by exact_mod_cast Nat.pow_pos (by decide) :
    (0 : ℚ) < (Nat.pow 10 (-(first - n)).toNat : Nat))
  linarith

/-- The shortest decimal has a few digits and is not beyond what rounds to the double. -/
theorem shortest_bounds (d : Double) :
    d.shortest = ⟨0, 0⟩ ∨ 0 < d.shortest.digits ∧ d.shortest.digits ≤ 10 ^ 17 ∧
      d.shortest.value * d.interval.scale ≤ d.interval.high := by
  unfold shortest
  split
  · exact .inl rfl
  rename_i nonzero
  dsimp only
  split
  · rename_i decimal tried
    obtain ⟨n, few, found⟩ := List.exists_of_findSome?_eq_some tried
    have mantissa : 0 < d.mantissa := by simpa [isZero, Nat.pos_iff_ne_zero] using nonzero
    have value : 0 < d.interval.value :=
      Nat.mul_pos (Nat.mul_pos (by decide) mantissa) (Nat.two_pow_pos _)
    have scale : 0 < d.interval.scale := Nat.mul_pos (by decide) unit_pos
    obtain ⟨some, short, le⟩ :=
      Interval.gridPoint_bounds value scale (List.mem_range.mp few) found
    have same : decimal.strip.value = decimal.value := Decimal.value_stripUpTo _ decimal
    refine .inr ⟨?_, (Decimal.digits_stripUpTo_le _ decimal).trans short, same ▸ le⟩
    by_contra none
    have zero : decimal.strip.digits = 0 := by omega
    have positive : 0 < decimal.value :=
      mul_pos (by exact_mod_cast some) (zpow_pos (by norm_num) _)
    rw [← same, Decimal.value, zero] at positive
    simp at positive
  · exact .inl rfl

end Double

end Scenario.Number
