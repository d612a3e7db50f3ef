import Scenario.Proofs.Number.Rounding
/-!
The nearest double.

A ratio is rounded on the grid of one shift. Doubles of a greater shift lie on this grid, and those
of a lesser shift lie below the ratio and below a point of the grid, so no double of any shift is
nearer. Of a whole number this is said by `Nearest`, and more is not needed to compare two of them.
-/
namespace Scenario.Number.Double

section Grid

variable {a d : Nat}

theorem roundHalfEven_cases (a d : Nat) :
    (roundHalfEven a d = a / d ∧ 2 * (a % d) ≤ d ∨
      roundHalfEven a d = a / d + 1 ∧ d ≤ 2 * (a % d)) ∧
      (2 * (a % d) = d → roundHalfEven a d % 2 = 0) := by
  unfold roundHalfEven
  dsimp only
  split_ifs <;> omega

/-- No multiple is nearer than the rounded quotient, and of two equally near this one is even. -/
theorem roundHalfEven_nearest (positive : 0 < d) (k : Nat) :
    ((roundHalfEven a d * d : Nat) - (a : Int)).natAbs ≤ ((k * d : Nat) - (a : Int)).natAbs ∧
      (k ≠ roundHalfEven a d →
        ((k * d : Nat) - (a : Int)).natAbs = ((roundHalfEven a d * d : Nat) - (a : Int)).natAbs →
          roundHalfEven a d % 2 = 0) := by
  obtain ⟨rounded, tie⟩ := roundHalfEven_cases a d
  have whole := Nat.div_add_mod' a d
  have rest := Nat.mod_lt a positive
  have next : (a / d + 1) * d = a / d * d + d := Nat.succ_mul _ _
  generalize roundHalfEven a d = m at *
  rcases Nat.lt_or_ge (a / d) k with above | below
  · have far : (a / d + 1) * d ≤ k * d := Nat.mul_le_mul_right d above
    rcases rounded with ⟨rfl, near⟩ | ⟨rfl, near⟩
    · exact ⟨by omega, fun _ same => tie (by omega)⟩
    · refine ⟨by omega, fun other same => ?_⟩
      have farther : (a / d + 1 + 1) * d ≤ k * d := Nat.mul_le_mul_right d (by omega)
      rw [Nat.succ_mul] at farther
      omega
  · have far : k * d ≤ a / d * d := Nat.mul_le_mul_right d below
    rcases rounded with ⟨rfl, near⟩ | ⟨rfl, near⟩
    · refine ⟨by omega, fun other same => ?_⟩
      have farther : (k + 1) * d ≤ a / d * d := Nat.mul_le_mul_right d (by omega)
      rw [Nat.succ_mul] at farther
      omega
    · exact ⟨by omega, fun _ same => tie (by omega)⟩

end Grid

variable {negative : Bool} {numerator denominator mantissa shift : Nat} {d : Double}

theorem parts_of_ofForm? (found : ofForm? negative mantissa shift = some d) :
    d.negative = negative ∧ (d.mantissa = mantissa ∨ d.mantissa = fullMantissa) := by
  have carried : (if mantissa = mantissaBound then (fullMantissa, shift + 1)
        else (mantissa, shift)).1 = mantissa ∨
      (if mantissa = mantissaBound then (fullMantissa, shift + 1)
        else (mantissa, shift)).1 = fullMantissa := by
    split_ifs <;> simp
  unfold ofForm? at found
  dsimp only at found
  generalize (if mantissa = mantissaBound then (fullMantissa, shift + 1)
    else (mantissa, shift)) = form at found carried
  split at found
  · cases found
    exact ⟨rfl, carried⟩
  · cases found

theorem negative_of_ofRatio (found : ofRatio negative numerator denominator = some d) :
    d.negative = negative :=
  (parts_of_ofForm? found).1

theorem even_of_ofRatio (found : ofRatio negative numerator denominator = some d)
    (even : roundedMantissa numerator denominator % 2 = 0) : d.mantissa % 2 = 0 := by
  rcases (parts_of_ofForm? found).2 with kept | carried
  · rw [kept]
    exact even
  · rw [carried]
    rfl

/-- A double lies on the grid of a ratio or below all points of it that are in question. -/
theorem on_grid_or_below (numerator : Nat) (positive : 0 < denominator) (e : Double) :
    (∃ k, e.size * denominator =
        k * (denominator * 2 ^ roundedShift numerator denominator)) ∨
      ∃ k, e.size * denominator < k * (denominator * 2 ^ roundedShift numerator denominator) ∧
        k * (denominator * 2 ^ roundedShift numerator denominator) ≤ numerator * unit := by
  rcases Nat.lt_or_ge e.shift (roundedShift numerator denominator) with finer | coarser
  · have shifted : 0 < roundedShift numerator denominator := Nat.zero_lt_of_lt finer
    refine .inr ⟨fullMantissa, ?_, fullMantissa_mul_le positive shifted⟩
    have small : e.size < fullMantissa * 2 ^ roundedShift numerator denominator :=
      calc e.mantissa * 2 ^ e.shift
          < mantissaBound * 2 ^ e.shift :=
            Nat.mul_lt_mul_of_pos_right e.canonical.1 (Nat.two_pow_pos _)
        _ = fullMantissa * 2 ^ (e.shift + 1) := by
            rw [Nat.pow_succ, show mantissaBound = fullMantissa * 2 from rfl]
            ring
        _ ≤ fullMantissa * 2 ^ roundedShift numerator denominator :=
            Nat.mul_le_mul_left _ (Nat.pow_le_pow_right (by decide) finer)
    calc e.size * denominator
        < fullMantissa * 2 ^ roundedShift numerator denominator * denominator :=
          Nat.mul_lt_mul_of_pos_right small positive
      _ = fullMantissa * (denominator * 2 ^ roundedShift numerator denominator) := by ring
  · obtain ⟨places, same⟩ := Nat.exists_eq_add_of_le coarser
    refine .inl ⟨e.mantissa * 2 ^ places, ?_⟩
    change e.mantissa * 2 ^ e.shift * denominator = _
    rw [same, Nat.pow_add]
    ring

/-- The double of a ratio is the nearest one in size, and of two that are equally near the one with
the even mantissa. -/
theorem ofRatio_nearest (positive : 0 < denominator)
    (found : ofRatio negative numerator denominator = some d) (e : Double) :
    ((d.size * denominator : Nat) - (numerator * unit : Nat) : Int).natAbs ≤
        ((e.size * denominator : Nat) - (numerator * unit : Nat) : Int).natAbs ∧
      (e.size ≠ d.size →
        ((e.size * denominator : Nat) - (numerator * unit : Nat) : Int).natAbs =
          ((d.size * denominator : Nat) - (numerator * unit : Nat) : Int).natAbs →
        d.mantissa % 2 = 0) := by
  have even := even_of_ofRatio found
  have size : d.size * denominator = roundedMantissa numerator denominator *
      (denominator * 2 ^ roundedShift numerator denominator) := by
    rw [size_of_ofRatio found, roundedTicks]
    ring
  have place := on_grid_or_below numerator positive e
  have step : 0 < denominator * 2 ^ roundedShift numerator denominator :=
    Nat.mul_pos positive (Nat.two_pow_pos _)
  have nearest (k : Nat) := roundHalfEven_nearest (a := numerator * unit) step k
  change ∀ k, _ ≤ _ ∧ (k ≠ roundedMantissa numerator denominator → _ →
    roundedMantissa numerator denominator % 2 = 0) at nearest
  rcases place with ⟨k, onGrid⟩ | ⟨k, below, under⟩
  · refine ⟨?_, fun other same => even ?_⟩
    · rw [size, onGrid]
      exact (nearest k).1
    · refine (nearest k).2 ?_ ?_
      · rintro rfl
        exact other (Nat.eq_of_mul_eq_mul_right positive (onGrid.trans size.symm))
      · rw [← onGrid, same, size]
        rfl
  · have close := (nearest k).1
    change ((roundedMantissa numerator denominator * _ : Nat) - _ : Int).natAbs ≤ _ at close
    rw [size]
    exact ⟨by omega, fun _ same => by omega⟩

section Whole

variable {m n : Int} {e : Double}

/-- How far a double is from a whole number, in ticks. -/
def distance (d : Double) (n : Int) : Nat := (d.ticks - n * unit).natAbs

/-- No double is nearer to the whole number, and of two that are equally near this is the one with
the even mantissa. -/
structure Nearest (n : Int) (d : Double) : Prop where
  least : ∀ e : Double, d.distance n ≤ e.distance n
  even : ∀ e : Double, e.ticks ≠ d.ticks → e.distance n = d.distance n → d.mantissa % 2 = 0

theorem ticks_cases (d : Double) :
    d.negative = false ∧ d.ticks = d.size ∨ d.negative = true ∧ d.ticks = -(d.size : Int) := by
  unfold ticks
  cases d.negative <;> simp

theorem mul_unit_cases (n : Int) :
    0 ≤ n ∧ n * unit = (n.natAbs * unit : Nat) ∨
      n < 0 ∧ n * unit = -((n.natAbs * unit : Nat) : Int) := by
  rcases le_or_gt 0 n with up | down
  · refine .inl ⟨up, ?_⟩
    rw [Int.natCast_mul, Int.natAbs_of_nonneg up]
  · refine .inr ⟨down, ?_⟩
    rw [Int.natCast_mul, Int.ofNat_natAbs_of_nonpos down.le, Int.neg_mul, Int.neg_neg]

/-- Signs are kept, so what is nearest in size is nearest. -/
theorem ofInt_nearest (found : ofInt n = some d) : Nearest n d := by
  have sign : d.negative = decide (n < 0) := negative_of_ofRatio found
  have nearest (e : Double) := ofRatio_nearest Nat.one_pos found e
  simp only [Nat.mul_one] at nearest
  have target := mul_unit_cases n
  have own := d.ticks_cases
  rw [sign] at own
  simp only [decide_eq_false_iff_not, decide_eq_true_eq] at own
  have zero := (nearest .zero).1
  rw [show Double.zero.size = 0 from rfl] at zero
  constructor
  · intro e
    have other := e.ticks_cases
    have close := (nearest e).1
    unfold distance
    omega
  · intro e apart same
    have other := e.ticks_cases
    have close := (nearest e).1
    unfold distance at same
    exact (nearest e).2 (by omega) (by omega)

/-- The nearest doubles of two numbers never stand in the opposite order. -/
theorem Nearest.ticks_le (first : Nearest m d) (second : Nearest n e) (less : m < n) :
    d.ticks ≤ e.ticks := by
  have apart : m * unit < n * unit :=
    Int.mul_lt_mul_of_pos_right less (Int.natCast_pos.mpr unit_pos)
  have fromFirst := first.least e
  have fromSecond := second.least d
  unfold distance at fromFirst fromSecond
  omega

theorem exists_size_of_full (negative : Bool) {digits places : Nat} (few : digits ≤ mantissaBound)
    (full : 0 < places → fullMantissa ≤ digits) (inRange : digits * 2 ^ places < ticksBound) :
    ∃ d : Double, d.negative = negative ∧ d.size = digits * 2 ^ places := by
  obtain ⟨d, found⟩ : ∃ d, ofForm? negative digits places = some d :=
    ofForm?_of_lt few full inRange
  exact ⟨d, (parts_of_ofForm? found).1, size_of_ofForm? found⟩

/-- Of the places behind a few digits so many are taken for digits as there is room for. -/
theorem exists_size (negative : Bool) {digits places : Nat} (few : digits ≤ mantissaBound)
    (inRange : digits * 2 ^ places < ticksBound) :
    ∃ d : Double, d.negative = negative ∧ d.size = digits * 2 ^ places := by
  induction places generalizing digits with
  | zero => exact exists_size_of_full negative few (by omega) inRange
  | succ places ih =>
    rcases Nat.lt_or_ge digits fullMantissa with small | full
    · have same : digits * 2 ^ (places + 1) = 2 * digits * 2 ^ places := by ring
      have room : 2 * digits ≤ mantissaBound := by
        rw [show mantissaBound = 2 * fullMantissa from rfl]
        omega
      rw [same] at inRange ⊢
      exact ih room inRange
    · exact exists_size_of_full negative few (fun _ => full) inRange

theorem exists_ticks (few : n.natAbs ≤ mantissaBound) : ∃ d : Double, d.ticks = n * unit := by
  obtain ⟨places, tick, low⟩ : ∃ places, unit = 2 ^ places ∧ places < greatestShift :=
    ⟨1074, by decide +kernel, by decide⟩
  have inRange : n.natAbs * 2 ^ places < ticksBound :=
    calc n.natAbs * 2 ^ places ≤ mantissaBound * 2 ^ places := Nat.mul_le_mul_right _ few
      _ < mantissaBound * 2 ^ greatestShift :=
        Nat.mul_lt_mul_of_pos_left (Nat.pow_lt_pow_right (by decide) low) (by decide)
  obtain ⟨d, sign, size⟩ := exists_size (decide (n < 0)) few inRange
  have own := d.ticks_cases
  have target := mul_unit_cases n
  rw [sign, size, ← tick] at own
  simp only [decide_eq_false_iff_not, decide_eq_true_eq] at own
  exact ⟨d, by omega⟩

/-- Up to 2^53 whole numbers are doubles themselves. -/
theorem Nearest.ticks_eq (nearest : Nearest n d) (few : n.natAbs ≤ mantissaBound) :
    d.ticks = n * unit := by
  obtain ⟨e, exact⟩ := exists_ticks few
  have close := nearest.least e
  unfold distance at close
  omega

end Whole

end Scenario.Number.Double
