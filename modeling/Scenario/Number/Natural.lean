/-!
Natural numbers as settings and paths write them: decimal digits, with a plus sign allowed before
them, of a number below a bound.
-/
namespace Scenario.Number

def naturalBelow? (bound : Nat) (text : List Char) : Option Nat :=
  let digits := match text with
    | '+' :: rest => rest
    | rest => rest
  if digits.isEmpty || digits.any (fun c => !c.isDigit) then none
  else
    let n := digits.foldl (fun n c => n * 10 + (c.toNat - '0'.toNat)) 0
    if n < bound then some n else none

end Scenario.Number
