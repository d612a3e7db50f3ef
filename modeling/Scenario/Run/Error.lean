import Scenario.Flow.Document
/-!
Why a run fails.

A request fails with a reply that is no success, or without any reply. The error of a run is part
of its result and travels as JSON, which `RunError.decode` reads. In a value the fields of an object
are in order, and in a line they stand as they are declared: `encode` is the one, `written` the other.
-/
namespace Scenario

open Json (Value Decoder Record Variant Setting)

inductive RequestFailure where
  | response (status : UInt16) (statusText : String) (data : Value)
  | unavailable (message : String)
deriving DecidableEq

namespace RequestFailure

/-- What is reported when there was no reply at all. -/
def noReply : String := "An unknown error occurred while running the request"

def message : RequestFailure → String
  | .response status statusText _ =>
    "server responded with " ++ toString status.toNat ++ " " ++ statusText
  | .unavailable message => message

/-- The JSON of a failure; `object` makes an object of fields. -/
def encodeBy (object : List (String × Value) → Value) : RequestFailure → Value
  | .response status statusText data =>
    object [("kind", .string "response"), ("status", .whole (.ofUInt16 status)),
      ("statusText", .string statusText), ("data", data)]
  | .unavailable message =>
    object [("kind", .string "transportUnavailable"), ("message", .string message)]

def encode (failure : RequestFailure) : Value := failure.encodeBy .ofFields

def variants : List (Variant RequestFailure) :=
  [.ofRecord "RequestFailure" "Response" "response"
     (((Record.map .response (.field "status" Decoder.uint16)).apply
       (.field "statusText" Decoder.string)).apply (.field "data" Decoder.ordered)),
   .ofRecord "RequestFailure" "TransportUnavailable" "transportUnavailable"
     (.map .unavailable (.field "message" Decoder.string))]

def decode (setting : Setting) : Decoder RequestFailure :=
  Variant.decode setting "kind" "RequestFailure" variants

end RequestFailure

inductive RunError where
  | graph (message : String)
  | document (message : String)
  | deadEnd (node : String) (label : Bool)
  | request (failure : RequestFailure)
  | invalidStep (message : String)
  | timedOut (timeout : UInt64)
  | defect (message : String)
deriving DecidableEq

namespace RunError

def message : RunError → String
  | .graph message => "Invalid flow graph: " ++ message
  | .document message => DocumentFault.heading ++ message
  | .deadEnd node label => "Assert node '" ++ node ++ "' has no '" ++ labelText label ++ "' edge"
  | .request failure => "Request failed: " ++ failure.message
  | .invalidStep message => "Invalid node data: " ++ message
  | .timedOut timeout => "Run timed out after " ++ toString timeout.toNat ++ " ms"
  | .defect message => "Engine defect: " ++ message

/-- The fields of an error that is told by its kind and a message. -/
def plain (kind message : String) : List (String × Value) :=
  [("kind", .string kind), ("message", .string message)]

def encodeBy (object : List (String × Value) → Value) : RunError → Value
  | .graph message => object (plain "graphInvalid" message)
  | .document message => object (plain "serialization" message)
  | .deadEnd node label =>
    object [("kind", .string "deadEnd"), ("node", .string node),
      ("label", .string (labelText label))]
  | .request failure =>
    object [("kind", .string "requestFailed"), ("failure", failure.encodeBy object)]
  | .invalidStep message => object (plain "invalidNodeData" message)
  | .timedOut timeout =>
    object [("kind", .string "timedOut"), ("timeoutMs", .whole (.ofUInt64 timeout))]
  | .defect message => object (plain "defect" message)

def encode (e : RunError) : Value := e.encodeBy .ofFields

def written (e : RunError) : Value := e.encodeBy .object

def messageVariant (title name : String) (error : String → RunError) : Variant RunError :=
  .ofRecord "RunError" title name (.map error (.field "message" Decoder.string))

def variants : List (Variant RunError) :=
  [messageVariant "GraphInvalid" "graphInvalid" .graph,
   messageVariant "Serialization" "serialization" .document,
   .ofRecord "RunError" "DeadEnd" "deadEnd"
     ((Record.map .deadEnd (.field "node" Decoder.string)).apply
       (.field "label" (Decoder.choice .tagged labelNames))),
   .ofRecord "RunError" "RequestFailed" "requestFailed"
     (.map .request (.field "failure" (RequestFailure.decode .tagged))),
   messageVariant "InvalidNodeData" "invalidNodeData" .invalidStep,
   .ofRecord "RunError" "TimedOut" "timedOut" (.map .timedOut (.field "timeoutMs" Decoder.uint64)),
   messageVariant "Defect" "defect" .defect]

def decode (setting : Setting) : Decoder RunError :=
  Variant.decode setting "kind" "RunError" variants

/-- The error of a run whose flow could not be had. -/
def ofFlowError : FlowError → RunError
  | .graph fault => .graph fault.message
  | .document fault => .document fault.message
  | .unregistered kind => .defect (FlowError.unregistered kind).message
  | .wrongStep expected found => .defect (FlowError.wrongStep expected found).message
  | .disk fault => .document fault.message
  | .invalidName name => .document ("invalid name '" ++ name ++ "'")

end RunError

end Scenario
