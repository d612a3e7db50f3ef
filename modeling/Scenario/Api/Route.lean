import Scenario.Text.Split
import Scenario.Run.Id
/-!
Addresses of the API.

A route is told by the path of a request as it is written; a variable segment of it may be empty
unless it is the last one. Bytes that a path writes as `%` and two hexadecimal digits are put in
only when the segment is used.
-/
namespace Scenario.Api

/-- An address, with its variable segment as it is written. -/
inductive Route where
  | health
  | runs
  | cancelRun (id : List Char)
  | flows
  | flow (name : List Char)
  | runFlow (name : List Char)
deriving DecidableEq, Repr

namespace Route

/-- What follows the scheme of a target that names one. -/
def afterScheme? (target : List Char) : Option (List Char) :=
  match target.dropWhile (· != ':') with
  | ':' :: '/' :: '/' :: rest => some rest
  | _ => none

def endsPath (c : Char) : Bool := c == '?' || c == '#'

/-- The path of a target, without what follows a question mark or a hash. A target may start with
a scheme and an authority, and its path is the root if nothing follows them. -/
def pathOf (target : String) : List Char :=
  let text := target.toList
  if text.head? = some '/' then text.takeWhile (!endsPath ·)
  else
    match afterScheme? text with
    | none => text.takeWhile (!endsPath ·)
    | some rest =>
      let path := (rest.dropWhile fun c => c != '/' && !endsPath c).takeWhile (!endsPath ·)
      if path.isEmpty then ['/'] else path

def segments? (path : List Char) : Option (List (List Char)) :=
  match Text.splitOn '/' path with
  | [] :: segments => some segments
  | _ => none

def ofTarget? (target : String) : Option Route := do
  match (← segments? (pathOf target)) with
  | [a] => if a = "healthz".toList then some .health else none
  | [a, b] =>
    if a ≠ "api".toList then none
    else if b = "runs".toList then some .runs
    else if b = "flows".toList then some .flows
    else none
  | [a, b, name] =>
    if a = "api".toList ∧ b = "flows".toList ∧ name ≠ [] then some (.flow name) else none
  | [a, b, name, d] =>
    if a ≠ "api".toList then none
    else if b = "flows".toList ∧ d = "run".toList then some (.runFlow name)
    else if b = "runs".toList ∧ d = "cancel".toList then some (.cancelRun name)
    else none
  | _ => none

end Route

def hexByte? (b : UInt8) : Option Nat := RunId.hexValue? (Char.ofNat b.toNat)

/-- The bytes that a segment stands for; a percent sign without two digits stands for itself. -/
def percentDecode : List UInt8 → List UInt8
  | a :: b :: c :: rest =>
    if a = 0x25 then
      match hexByte? b, hexByte? c with
      | some high, some low => UInt8.ofNat (16 * high + low) :: percentDecode rest
      | _, _ => a :: percentDecode (b :: c :: rest)
    else a :: percentDecode (b :: c :: rest)
  | a :: rest => a :: percentDecode rest
  | [] => []

def decodeSegment? (segment : List Char) : Option String :=
  String.fromUTF8? (ByteArray.mk (percentDecode (String.ofList segment).toUTF8.toList).toArray)

end Scenario.Api
