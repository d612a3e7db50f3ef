import Scenario.Json.Printer
import Scenario.Number.Natural
import Scenario.Template
import Scenario.Text.Split
/-!
Variables.

A path names a variable and walks from there through the keys of objects and the positions of
arrays; its steps are separated by points. Texts, operands and whole values are templates over the
variables of a run.
-/
namespace Scenario

open Json (Value)

abbrev Variables := Dict Value

/-- The position in an array that a step of a path writes. -/
def position? (step : List Char) : Option Nat := Number.naturalBelow? 18446744073709551616 step

def Json.Value.step? (step : List Char) : Value → Option Value
  | .object fields => Entries.get? fields (String.ofList step)
  | .array items => (position? step).bind (items[·]?)
  | _ => none

def Json.Value.walk? : List (List Char) → Value → Option Value
  | [], v => some v
  | step :: steps, v => (v.step? step).bind (walk? steps)

namespace Variables

def resolvePath (vars : Variables) (path : List Char) : Option Value :=
  match Text.splitOn '.' path with
  | [] => none
  | name :: steps => (vars.get? (String.ofList name)).bind (Value.walk? steps)

/-- A template with the text of every variable in its place. -/
def interpolate (vars : Variables) (template : String) : String :=
  String.ofList (Template.render
    (fun path => (vars.resolvePath path).map fun v => v.inline.toList) template.toList)

/-- An operand: a lone token is the value itself, and null if there is none. -/
def resolveOperand (vars : Variables) (operand : String) : Value :=
  match Template.lonePath? operand.toList with
  | some path => (vars.resolvePath path).getD .null
  | none => .string (vars.interpolate operand)

mutual
/-- A value with every string in it taken as an operand. -/
def resolveValue (vars : Variables) : Value → Value
  | .string s => vars.resolveOperand s
  | .array items => .array (resolveItems vars items)
  | .object fields => .object (resolveFields vars fields)
  | v => v

def resolveItems (vars : Variables) : List Value → List Value
  | [] => []
  | item :: items => resolveValue vars item :: resolveItems vars items

def resolveFields (vars : Variables) : List (String × Value) → List (String × Value)
  | [] => []
  | (key, v) :: fields => (key, resolveValue vars v) :: resolveFields vars fields
end

end Variables

end Scenario
