/-!
Finite numbers of double precision.

A double is a sign, a mantissa below 2^53 and a shift: its size is `mantissa * 2^shift` ticks,
and a tick is 2^-1074, the smallest positive double. Every finite double has exactly one such
form, so equality of forms tells apart `0` and `-0` while comparison of values goes through
`ticks`, an integer.
-/
namespace Scenario.Number

/-- 2^52, the least number of 53 bits. -/
abbrev fullMantissa : Nat := 4503599627370496

/-- 2^53, the least number of more than 53 bits. -/
abbrev mantissaBound : Nat := 9007199254740992

/-- The shift of the largest doubles. -/
abbrev greatestShift : Nat := 2045

/-- The canonical forms: a mantissa of fewer than 53 bits occurs with shift zero only. -/
abbrev Canonical (mantissa shift : Nat) : Prop :=
  mantissa < mantissaBound ∧ shift ≤ greatestShift ∧ (shift = 0 ∨ fullMantissa ≤ mantissa)

structure Double where
  negative : Bool
  mantissa : Nat
  shift : Nat
  canonical : Canonical mantissa shift
deriving DecidableEq

namespace Double

def zero : Double := ⟨false, 0, 0, by decide⟩

instance : Inhabited Double := ⟨zero⟩

def size (d : Double) : Nat := d.mantissa * Nat.pow 2 d.shift

/-- The value in ticks of 2^-1074. -/
def ticks (d : Double) : Int := if d.negative then -(d.size : Int) else d.size

/-- Ticks in one. -/
def unit : Nat := Nat.pow 2 1074

def isZero (d : Double) : Bool := d.mantissa == 0

def negate (d : Double) : Double := { d with negative := !d.negative }

/-- Equality of values: the two zeros are equal. -/
def same (a b : Double) : Bool := a.ticks == b.ticks

def less (a b : Double) : Bool := decide (a.ticks < b.ticks)

/-- The quotient to the nearest whole number, a half to the even neighbour. -/
def roundHalfEven (numerator denominator : Nat) : Nat :=
  let quotient := numerator / denominator
  let twice := 2 * (numerator % denominator)
  if twice < denominator then quotient
  else if denominator < twice then quotient + 1
  else quotient + quotient % 2

/-- The double of this form, if it is one: a mantissa of 2^53 counts as the next power of two,
and a shift that is too large is out of range. -/
def ofForm? (negative : Bool) (mantissa shift : Nat) : Option Double :=
  let form :=
    if mantissa = mantissaBound then (fullMantissa, shift + 1) else (mantissa, shift)
  if canonical : Canonical form.1 form.2 then some ⟨negative, form.1, form.2, canonical⟩
  else none

/-- The double nearest to `numerator / denominator`, ties to the even mantissa; none when the
quotient is out of range. -/
def ofRatio (negative : Bool) (numerator denominator : Nat) : Option Double :=
  let ticks := numerator * unit
  let shift := Nat.log2 (ticks / denominator) - 52
  ofForm? negative (roundHalfEven ticks (denominator * Nat.pow 2 shift)) shift

def ofInt (n : Int) : Option Double := ofRatio (decide (n < 0)) n.natAbs 1

def mul (a b : Double) : Option Double :=
  ofRatio (a.negative != b.negative) (a.size * b.size) (unit * unit)

/-- The double nearest to a quotient of doubles; the divisor is not zero. -/
def div (a b : Double) : Option Double :=
  ofRatio (a.negative != b.negative) a.size b.size

/-- The double nearest to a power of ten, for the powers in range. -/
def tenTo (exponent : Nat) : Double := (ofRatio false (Nat.pow 10 exponent) 1).getD zero

end Double

end Scenario.Number
