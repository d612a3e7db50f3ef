import Scenario.Request
import Scenario.Run.Error
/-!
Sending requests.

A transport either reaches nothing or has replies ready, one for each request in the order in
which they are sent. It keeps the requests that were sent, each with the time that was left to the
run. A reply that is no success is a failure of the request.
-/
namespace Scenario

open Json (Value)

/-- A reply with a status that means success. -/
structure Response where
  status : UInt16
  statusText : String
  headers : Dict String
  data : Value
deriving DecidableEq

def Response.encode (response : Response) : Value :=
  .ofFields [("status", .whole (.ofUInt16 response.status)),
    ("statusText", .string response.statusText), ("headers", headersValue response.headers),
    ("data", response.data)]

/-- The data of a body: JSON if it is JSON, and text otherwise. -/
def readBody (text : String) : Value :=
  match Json.parse text with
  | .ok v => v
  | .error _ => .string text

def Response.ofStatus (status : UInt16) (statusText : String) (headers : Dict String)
    (data : Value) : Except RequestFailure Response :=
  if 200 ≤ status ∧ status < 300 then .ok ⟨status, statusText, headers, data⟩
  else .error (.response status statusText data)

/-- What happens to a request: after so many milliseconds it may cancel the run, and then it has
its result, or none ever. -/
structure Reply where
  latency : Nat
  cancels : Bool
  result : Option (Except RequestFailure Response)

/-- The reply to a request that nobody answers. -/
def Reply.none : Reply := ⟨0, false, some (.error (.unavailable RequestFailure.noReply))⟩

/-- A request that was sent, with the milliseconds that were left to the run. -/
structure Sent where
  request : Request
  timeout : Nat
deriving DecidableEq

inductive Transport where
  | offline
  | scripted (replies : List Reply) (sent : List Sent)

namespace Transport

def sent : Transport → List Sent
  | .offline => []
  | .scripted _ sent => sent

def send (transport : Transport) (request : Request) (timeout : Nat) : Reply × Transport :=
  match transport with
  | .offline => (.none, .offline)
  | .scripted replies sent =>
    (replies.head?.getD .none, .scripted replies.tail (sent ++ [⟨request, timeout⟩]))

end Transport

end Scenario
