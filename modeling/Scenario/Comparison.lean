import Scenario.Flow.Basic
import Scenario.Json.Printer
import Scenario.Number.Reading
import Scenario.Text.Blank
import Scenario.Text.Split
/-!
Comparisons.

Two values are equal if they are the same value, or if both read as the same number, or if one is
a boolean and the other its name. Order is the order of numbers and holds between nothing else.
-/
namespace Scenario

open Json (Value)
open Number (Reading)

namespace Comparison

def readNumber (text : String) : Option Reading := Reading.ofChars? (Text.trimChars text.toList)

def numberOf : Value → Option Reading
  | .number n => some (.finite n.toDouble)
  | .string s => readNumber s
  | _ => none

def sameNumber : Option Reading → Option Reading → Bool
  | some a, some b => a.same b
  | _, _ => false

/-- Whether a text is the name of a boolean, in letters of either case and between blanks. -/
def names (text : String) (b : Bool) : Bool :=
  (Text.trimChars text.toList).map Char.toLower == (labelText b).toList

def coerces : Value → Value → Bool
  | .number a, .number b => sameNumber (numberOf (.number a)) (numberOf (.number b))
  | .number a, .string b => sameNumber (numberOf (.number a)) (readNumber b)
  | .string a, .number b => sameNumber (readNumber a) (numberOf (.number b))
  | .string a, .string b => sameNumber (readNumber a) (readNumber b)
  | .bool a, .string b => names b a
  | .string a, .bool b => names a b
  | _, _ => false

def equal (left right : Value) : Bool := left.same right || coerces left right

def less (left right : Value) : Bool :=
  match numberOf left, numberOf right with
  | some a, some b => a.less b
  | _, _ => false

/-- A part of a text, an item of an array, or a key of an object. -/
def contains (whole part : Value) : Bool :=
  match whole with
  | .string s => Text.occurs part.inline.toList s.toList
  | .array items => items.any (equal · part)
  | .object fields => Entries.contains fields part.inline
  | _ => false

end Comparison

def Operator.holds (operator : Operator) (left right : Value) : Bool :=
  match operator with
  | .equals => Comparison.equal left right
  | .notEquals => !Comparison.equal left right
  | .greaterThan => Comparison.less right left
  | .lessThan => Comparison.less left right
  | .contains => Comparison.contains left right

end Scenario
