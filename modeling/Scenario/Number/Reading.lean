import Scenario.Number.Double
/-!
Numbers in text.

A number is a decimal with an optional fraction and an optional exponent, or one of the words for
infinity and for what is not a number, in letters of either case; a sign may stand before any of
them. It is rounded to the nearest double.
-/
namespace Scenario.Number

inductive Reading where
  | notANumber
  | infinite (negative : Bool)
  | finite (value : Double)
deriving DecidableEq

namespace Reading

/-- Equality of numbers; what is not a number equals nothing. -/
def same : Reading → Reading → Bool
  | .infinite a, .infinite b => a == b
  | .finite a, .finite b => a.same b
  | _, _ => false

/-- The order of numbers; what is not a number is never less or greater. -/
def less : Reading → Reading → Bool
  | .notANumber, _ | _, .notANumber => false
  | .infinite a, .infinite b => a && !b
  | .infinite a, .finite _ => a
  | .finite _, .infinite b => !b
  | .finite a, .finite b => a.less b

def ofDigits (digits : List Char) : Nat :=
  digits.foldl (fun n c => n * 10 + (c.toNat - '0'.toNat)) 0

/-- Beyond this power of ten every decimal is infinite, and below its inverse every one is zero. -/
def reach : Int := 400

/-- `digits * 10 ^ exponent`, rounded to the nearest double. -/
def ofDecimal (negative : Bool) (digits : List Char) (exponent : Int) : Reading :=
  let significand := ofDigits digits
  let size := (Nat.repr significand).length + exponent
  if significand = 0 ∨ size < -reach then
    .finite (if negative then Double.zero.negate else .zero)
  else if reach < size then .infinite negative
  else
    let value :=
      if exponent < 0 then Double.ofRatio negative significand (Nat.pow 10 exponent.natAbs)
      else Double.ofRatio negative (significand * Nat.pow 10 exponent.natAbs) 1
    match value with
    | some value => .finite value
    | none => .infinite negative

/-- The exponent behind the digits of a decimal, zero if there is none. -/
def exponent? : List Char → Option Int
  | [] => some 0
  | mark :: rest =>
    if mark = 'e' ∨ mark = 'E' then
      let (negative, digits) : Bool × List Char :=
        match rest with
        | '+' :: digits => (false, digits)
        | '-' :: digits => (true, digits)
        | digits => (false, digits)
      if digits.isEmpty ∨ digits.any (fun c => !c.isDigit) then none
      else some (if negative then -(ofDigits digits : Int) else ofDigits digits)
    else none

/-- A decimal without sign; there is a digit before or behind the point. -/
def decimal? (negative : Bool) (text : List Char) : Option Reading :=
  let (whole, rest) := text.span Char.isDigit
  let (fraction, rest) :=
    match rest with
    | '.' :: rest => rest.span Char.isDigit
    | rest => ([], rest)
  if whole.isEmpty && fraction.isEmpty then none
  else (exponent? rest).map fun e => ofDecimal negative (whole ++ fraction) (e - fraction.length)

def unsigned? (negative : Bool) (text : List Char) : Option Reading :=
  let word := String.ofList (text.map Char.toLower)
  if word = "inf" ∨ word = "infinity" then some (.infinite negative)
  else if word = "nan" then some .notANumber
  else decimal? negative text

/-- The number that a text writes, if it writes one. -/
def ofChars? : List Char → Option Reading
  | '+' :: text => unsigned? false text
  | '-' :: text => unsigned? true text
  | text => unsigned? false text

end Reading

end Scenario.Number
