import Scenario.Number.Shortest
/-!
Numbers of JSON.

A whole number from -2^63 up to 2^64 - 1 is kept exactly; every other number is a double. The two
kinds are different numbers, so `1` and `1.0` differ.
-/
namespace Scenario.Json

open Scenario.Number

/-- From -2^63 up to 2^64 - 1. -/
abbrev IsWhole (n : Int) : Prop := -9223372036854775808 ≤ n ∧ n < 18446744073709551616

structure Whole where
  value : Int
  range : IsWhole value
deriving DecidableEq

namespace Whole

def ofInt? (n : Int) : Option Whole :=
  if range : IsWhole n then some ⟨n, range⟩ else none

def ofUInt64 (n : UInt64) : Whole := ⟨n.toNat, by have := n.toNat_lt; omega⟩

def ofUInt32 (n : UInt32) : Whole := ⟨n.toNat, by have := n.toNat_lt; omega⟩

def ofUInt16 (n : UInt16) : Whole := ⟨n.toNat, by have := n.toNat_lt; omega⟩

end Whole

inductive Number where
  | whole (n : Whole)
  | double (d : Double)
deriving DecidableEq

namespace Number

def toDouble : Number → Double
  | .whole n => (Double.ofInt n.value).getD .zero
  | .double d => d

/-- Whole numbers by their digits, doubles by their values. -/
def same : Number → Number → Bool
  | .whole a, .whole b => a.value == b.value
  | .double a, .double b => a.same b
  | _, _ => false

def text : Number → String
  | .whole n => toString n.value
  | .double d => d.text

end Number

end Scenario.Json
