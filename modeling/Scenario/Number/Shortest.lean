import Scenario.Number.Double
/-!
The shortest decimal of a double.

Of all decimals that read back as a given double, `shortest` takes one with the fewest digits,
and of those the nearest. A decimal with `n` digits lies on a grid; if any point of the grid lies
in the interval of reals that round to the double, so does one of the two grid points around the
double itself, and only these two are tried.
-/
namespace Scenario.Number

/-- `digits * 10 ^ exponent`. -/
structure Decimal where
  digits : Nat
  exponent : Int
deriving DecidableEq, Repr

namespace Decimal

/-- Drops zeros at the end of the digits, at most as many as the fuel. -/
def stripUpTo : Nat → Decimal → Decimal
  | 0, d => d
  | fuel + 1, d =>
    if d.digits ≠ 0 ∧ d.digits % 10 = 0 then stripUpTo fuel ⟨d.digits / 10, d.exponent + 1⟩
    else d

def strip (d : Decimal) : Decimal := stripUpTo (Nat.repr d.digits).length d

end Decimal

namespace Double

/-- The exponent of the first digit of `numerator / denominator`, which is positive. -/
def leadingExponent (numerator denominator : Nat) : Int :=
  let guess : Int := (Nat.repr numerator).length - (Nat.repr denominator).length
  let reached :=
    if 0 ≤ guess then decide (denominator * Nat.pow 10 guess.toNat ≤ numerator)
    else decide (denominator ≤ numerator * Nat.pow 10 (-guess).toNat)
  if reached then guess else guess - 1

/-- The reals that round to a double, as fractions over `scale`; the ends belong to the interval
when the mantissa is even. -/
structure Interval where
  low : Nat
  value : Nat
  high : Nat
  scale : Nat
  closed : Bool

def interval (d : Double) : Interval :=
  let quarter := Nat.pow 2 d.shift
  let below := if d.mantissa = fullMantissa ∧ d.shift ≠ 0 then quarter else 2 * quarter
  let value := 4 * d.mantissa * quarter
  { low := value - below, value, high := value + 2 * quarter, scale := 4 * unit,
    closed := d.mantissa % 2 == 0 }

/-- Whether `point / denominator` lies in the interval; all three ends are fractions over the
interval's scale, and both sides are multiplied out. -/
def Interval.holds (i : Interval) (point denominator : Nat) : Bool :=
  let p := point * i.scale
  if i.closed then decide (i.low * denominator ≤ p) && decide (p ≤ i.high * denominator)
  else decide (i.low * denominator < p) && decide (p < i.high * denominator)

/-- The grid point around the value that lies in the interval, for decimals of a given exponent;
of two the nearer one, and the even one when both are equally near. -/
def Interval.gridPoint (i : Interval) (exponent : Int) : Option Decimal :=
  let up := Nat.pow 10 exponent.toNat
  let down := Nat.pow 10 (-exponent).toNat
  let floor := i.value * down / (i.scale * up)
  let rest := i.value * down % (i.scale * up)
  let lower := i.holds (floor * up) down
  let upper := i.holds ((floor + 1) * up) down
  let nearerUp := 2 * rest > i.scale * up ∨ (2 * rest = i.scale * up ∧ floor % 2 = 1)
  if lower && upper then some ⟨if nearerUp then floor + 1 else floor, exponent⟩
  else if lower then some ⟨floor, exponent⟩
  else if upper then some ⟨floor + 1, exponent⟩
  else none

/-- A shortest decimal of a double, without its sign; zero has one digit. Seventeen digits are
always enough. -/
def shortest (d : Double) : Decimal :=
  if d.isZero then ⟨0, 0⟩
  else
    let i := d.interval
    let first := leadingExponent i.value i.scale
    let tried := (List.range 17).findSome? fun n => i.gridPoint (first - (n : Nat))
    match tried with
    | some decimal => decimal.strip
    | none => ⟨0, 0⟩

/-- How a decimal is laid out: the exponents of the first digit that are written positionally. -/
structure Layout where
  leastPositional : Int
  greatestPositional : Int

/-- Positional from `0.00001` up to sixteen digits before the point. -/
def layout : Layout := ⟨-5, 15⟩

/-- A point stands between the digits or a zero is added behind it; an exponent always has a
sign and is not padded. -/
def Layout.write (l : Layout) (decimal : Decimal) : String :=
  let digits := (Nat.repr decimal.digits).toList
  let first := decimal.exponent + (digits.length : Int) - 1
  if l.leastPositional ≤ first ∧ first ≤ l.greatestPositional then
    if first < 0 then
      "0." ++ String.ofList (List.replicate (-first - 1).toNat '0' ++ digits)
    else
      let before := first.toNat + 1
      if digits.length ≤ before then
        String.ofList (digits ++ List.replicate (before - digits.length) '0') ++ ".0"
      else String.ofList (digits.take before) ++ "." ++ String.ofList (digits.drop before)
  else
    let fraction := digits.drop 1
    String.ofList (digits.take 1)
      ++ (if fraction.isEmpty then "" else "." ++ String.ofList fraction)
      ++ (if first < 0 then "e-" else "e+") ++ Nat.repr first.natAbs

/-- The text of a double: its shortest decimal, a minus sign before the negative ones. -/
def text (d : Double) : String :=
  (if d.negative then "-" else "") ++ layout.write d.shortest

end Double

end Scenario.Number
