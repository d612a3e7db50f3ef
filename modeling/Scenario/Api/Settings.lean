import Scenario.Api.Status
import Scenario.Json.Decode
import Scenario.Json.Parser
import Scenario.Text.Blank
import Scenario.Variables
/-!
Bodies of requests.

A run may be given a time limit, variables and the name of an environment. A flow that is posted to
be run stands beside these settings in one object; a saved flow is run with settings alone, which
may be left out or be given as an array.
-/
namespace Scenario.Api

open Json (Value Decoder DecodeError Record)

structure RunSettings where
  timeout : Option UInt64
  vars : Variables
  environment : Option String
deriving DecidableEq

namespace RunSettings

def none : RunSettings := ⟨.none, {}, .none⟩

def record : Record RunSettings :=
  ((Record.map RunSettings.mk
      (.fieldWith .none "timeoutMs" (Decoder.nullable Decoder.uint64))).apply
    (.fieldWith {} "variables" (Decoder.dict Decoder.ordered))).apply
    (.fieldWith .none "environment" (Decoder.nullable Decoder.string))

def decode : Decoder RunSettings := record.decode .plain "struct RunSettings"

end RunSettings

/-- A flow that is posted to be run, as a document. -/
structure RunRequest where
  flow : Value
  settings : RunSettings
deriving DecidableEq

namespace RunRequest

def record : Record RunRequest :=
  (Record.map RunRequest.mk (.field "flow" Decoder.ordered)).apply RunSettings.record

def reading {α : Type} (result : Except Json.Stop α) : Except Status α :=
  result.mapError fun _ => .badRequest

/-- The fields of a body up to its brace; the opening quote of the first key has been read. A
second flow is refused as soon as its key has been read. -/
def fields : (fuel : Nat) → (found : Bool) → List Char →
    Except Status (List (String × Value) × List Char)
  | 0, _, _ => .error .badRequest
  | fuel + 1, found, text => do
    let (name, rest) ← reading (Json.Parser.stringBody [] text)
    if found ∧ name = "flow" then .error .unprocessable
    else
      let rest ← reading (Json.Parser.colon rest)
      let (v, rest) ← reading (Json.Parser.value fuel (Json.Parser.nestingLimit - 1) rest)
      let (more, rest) ← reading (Json.Parser.moreFields rest)
      if more then
        let (later, rest) ← fields fuel (found || name == "flow") rest
        return ((name, v) :: later, rest)
      else return ([(name, v)], rest)

/-- The object that a body starts with, and the text behind it. What starts another value is
refused: an array at its bracket, and all else when it has been read. The fields have what is left
of the fuel for the whole body. -/
def object (text : List Char) : Except Status (List (String × Value) × List Char) :=
  match Json.Parser.skip text with
  | '[' :: _ => .error .unprocessable
  | '{' :: rest =>
    match Json.Parser.skip rest with
    | '}' :: rest => .ok ([], rest)
    | '"' :: rest => fields (Json.Parser.fuelFor text - 1) false rest
    | _ => .error .badRequest
  | _ =>
    match Json.Parser.value (Json.Parser.fuelFor text) Json.Parser.nestingLimit text with
    | .error _ => .error .badRequest
    | .ok _ => .error .unprocessable

/-- Reads a body. An object that does not fit is reported before anything that follows it. -/
def read (body : String) : Except Status RunRequest := do
  let (fields, rest) ← object body.toList
  let request ← (record.decode .tagged "struct RunRequest" (.object fields)).mapError
    fun _ => .unprocessable
  if (Json.Parser.skip rest).isEmpty then return request else .error .badRequest

end RunRequest

def readJson (body : String) : Except Status Value :=
  (Json.parse body).mapError fun _ => .badRequest

/-- The JSON of a body that may be left out; a blank body is none. -/
def readOptionalJson (body : String) : Except Status (Option Value) :=
  if Text.isBlankText body then .ok none else (readJson body).map some

end Scenario.Api
