import Scenario.Bytes.Base64
import Scenario.Flow.Basic
import Scenario.Json.Parser
import Scenario.Variables
/-!
Requests.

A request step becomes a request by filling in the variables of the run and adding the credentials
that are in force. An upload carries its file as a data URL, `data:TYPE;base64,BYTES`.
-/
namespace Scenario

open Json (Value)

structure Credentials where
  headers : Dict String
  query : List (String × String)
deriving DecidableEq

namespace Credentials

def header (name value : String) : Credentials := ⟨Dict.empty.insert name value, []⟩

def parameter (name value : String) : Credentials := ⟨.empty, [(name, value)]⟩

end Credentials

/-- The body of a request; a file has a name, may have a content type and is sent as a field. -/
inductive Body where
  | empty
  | json (value : Value)
  | text (text : String)
  | file (field name : String) (contentType : Option String) (bytes : List UInt8)
deriving DecidableEq

structure Request where
  method : Method
  url : String
  headers : Dict String
  query : List (String × String)
  body : Body
deriving DecidableEq

/-- Why a step cannot be carried out with the data it has. -/
inductive StepFault where
  | emptyUrl
  | bodyNotJson (e : Json.SyntaxError)
  | notADataUrl
  | noPayload
  | notBase64
  | badBase64 (fault : Base64.Fault)
  | emptyToken
  | emptyKeyName
  | emptyVariableName (node : String)
deriving DecidableEq

def StepFault.message : StepFault → String
  | .emptyUrl => "request url is empty"
  | .bodyNotJson e => "raw-json body is not valid JSON: " ++ e.message
  | .notADataUrl => "form-data value is not a data URL"
  | .noPayload => "form-data value has no payload"
  | .notBase64 => "form-data value is not base64 encoded"
  | .badBase64 fault => "form-data value has invalid base64: " ++ fault.message
  | .emptyToken => "bearer token is empty"
  | .emptyKeyName => "api key name is empty"
  | .emptyVariableName node => "setVar node '" ++ node ++ "' has an empty variable name"

def bytesOf (text : List Char) : List UInt8 := (String.ofList text).toUTF8.toList

/-- The content type and the bytes of a data URL; an empty content type is none. -/
def decodeDataUrl (url : String) : Except StepFault (Option String × List UInt8) :=
  match "data:".toList.isPrefixOf? url.toList with
  | none => .error .notADataUrl
  | some rest =>
    match Text.splitFirst ',' rest with
    | none => .error .noPayload
    | some (heading, payload) =>
      match ";base64".toList.isSuffixOf? heading with
      | none => .error .notBase64
      | some type =>
        match Base64.decode (bytesOf (Text.trimChars payload)) with
        | .error fault => .error (.badBase64 fault)
        | .ok bytes => .ok (if type.isEmpty then none else some (String.ofList type), bytes)

def BodyTemplate.fill (vars : Variables) : BodyTemplate → Except StepFault Body
  | .none => .ok .empty
  | .json template =>
    match Json.parse (vars.interpolate template) with
    | .ok value => .ok (.json value)
    | .error e => .error (.bodyNotJson e)
  | .text template => .ok (.text (vars.interpolate template))
  | .upload key value name => do
    let (contentType, bytes) ← decodeDataUrl value
    return .file key name contentType bytes

/-- The request of a step; headers of the credentials replace those of the step. -/
def RequestStep.fill (vars : Variables) (credentials : Option Credentials)
    (data : RequestStep) : Except StepFault Request := do
  let url := vars.interpolate data.url
  if Text.isBlankText url then .error .emptyUrl
  else do
    let headers := data.headers.map vars.interpolate
    let body ← data.body.fill vars
    return {
      method := data.method, url
      headers := headers.override (credentials.elim [] (·.headers.entries))
      query := credentials.elim [] (·.query)
      body }

/-- The credentials that a step puts in force; none of them, if it says so. -/
def Auth.resolve (vars : Variables) : Auth → Except StepFault (Option Credentials)
  | .none => .ok Option.none
  | .basic username password =>
    let pair := vars.interpolate username ++ ":" ++ vars.interpolate password
    .ok (some (.header "Authorization"
      ("Basic " ++ String.ofList (Base64.encode pair.toUTF8.toList))))
  | .bearer token =>
    let token := vars.interpolate token
    if Text.isBlankText token then .error .emptyToken
    else .ok (some (.header "Authorization" ("Bearer " ++ token)))
  | .apiKey key value placement =>
    if Text.isBlankText key then .error .emptyKeyName
    else
      let value := vars.interpolate value
      .ok (some (match placement with
        | .header => .header key value
        | .query => .parameter key value))

end Scenario
