import Scenario.Json.Printer
import Scenario.Json.Tagged
import Scenario.Run.Result
/-!
The stream of a run.

A run is reported as lines of JSON, each with a line feed at its end: one for every entry of the
log and a last one for the result. `RunEvent.line` writes a line and `RunEvent.read` reads it.
-/
namespace Scenario

open Json (Value Decoder Record Variant Setting TaggedError)

namespace Timestamp

def encode (t : Timestamp) : Value := .string t.text

def decode : Decoder Timestamp :=
  Decoder.reading "an RFC 3339 formatted date and time string" fun s =>
    (ofText s).mapError Fault.message

end Timestamp

namespace RunId

def encode (id : RunId) : Value := .string id.text

def decode : Decoder RunId :=
  Decoder.reading "a formatted UUID string" fun s =>
    (ofText s).mapError fun fault => "UUID parsing failed: " ++ fault.message

end RunId

namespace NodeRef

def encode (node : NodeRef) : Value :=
  .ofFields [("id", .string node.id), ("type", .string node.kind.tag)]

def record : Record NodeRef :=
  (Record.map NodeRef.mk (.field "id" Decoder.string)).apply
    (.field "type" (Decoder.choice .tagged (Kind.all.map fun kind => (kind.tag, kind))))

def decode : Decoder NodeRef := record.decode .tagged "struct NodeRef"

end NodeRef

namespace LogEntry

/-- The fields of an entry; a node or a payload that is not there is left out. -/
def fields (entry : LogEntry) : List (String × Value) :=
  [("timestamp", entry.timestamp.encode), ("level", .string entry.level.name),
    ("message", .string entry.message)]
    ++ (entry.node.map fun node => ("node", node.encode)).toList
    ++ (entry.payload.map fun payload => ("payload", payload)).toList

def encode (entry : LogEntry) : Value := .ofFields entry.fields

def record : Record LogEntry :=
  ((((Record.map LogEntry.mk (.field "timestamp" Timestamp.decode)).apply
    (.field "level"
      (Decoder.choice .tagged (Level.all.map fun level => (level.name, level))))).apply
    (.field "message" Decoder.string)).apply
    (.fieldWith none "node" (Decoder.nullable NodeRef.decode))).apply
    (.fieldWith none "payload" (Decoder.nullable Decoder.ordered))

def decode : Decoder LogEntry := record.decode .tagged "struct LogEntry"

end LogEntry

namespace RunResult

def fieldsBy (object : List (String × Value) → Value) (result : RunResult) :
    List (String × Value) :=
  [("runId", result.runId.encode), ("outcome", .string result.outcome.name),
    ("lastNode", result.lastNode.elim .null .string),
    ("error", result.error.elim .null (RunError.encodeBy object)),
    ("startedAt", result.startedAt.encode), ("finishedAt", result.finishedAt.encode),
    ("variables", .ofDict result.vars)]

def encode (result : RunResult) : Value := .ofFields (result.fieldsBy .ofFields)

def record : Record RunResult :=
  ((((((Record.map RunResult.mk (.field "runId" RunId.decode)).apply
    (.field "outcome"
      (Decoder.choice .tagged (Outcome.all.map fun outcome => (outcome.name, outcome))))).apply
    (.fieldOr (some none) none "lastNode" (Decoder.nullable Decoder.string))).apply
    (.fieldOr (some none) none "error" (Decoder.nullable (RunError.decode .tagged)))).apply
    (.field "startedAt" Timestamp.decode)).apply
    (.field "finishedAt" Timestamp.decode)).apply
    (.field "variables" (Decoder.dict Decoder.ordered))

def decode : Decoder RunResult := record.decode .tagged "struct RunResult"

end RunResult

inductive RunEvent where
  | log (entry : LogEntry)
  | result (result : RunResult)
deriving DecidableEq

namespace RunEvent

def tag : RunEvent → String
  | .log _ => "log"
  | .result _ => "result"

def fieldsBy (object : List (String × Value) → Value) : RunEvent → List (String × Value)
  | .log entry => entry.fields
  | .result report => report.fieldsBy object

def encodeBy (object : List (String × Value) → Value) (event : RunEvent) : Value :=
  object (("type", .string event.tag) :: event.fieldsBy object)

def encode (event : RunEvent) : Value := event.encodeBy .ofFields

def written (event : RunEvent) : Value := event.encodeBy .object

def variants : List (Variant RunEvent) :=
  [⟨"log", fun v => (LogEntry.decode v).map .log⟩,
   ⟨"result", fun v => (RunResult.decode v).map .result⟩]

def read (line : String) : Except TaggedError RunEvent :=
  Variant.read "type" "RunEvent" variants line

def line (event : RunEvent) : String := event.written.compact ++ "\n"

def stream (log : List LogEntry) (result : RunResult) : List RunEvent :=
  log.map .log ++ [.result result]

def text (events : List RunEvent) : String := String.join (events.map line)

end RunEvent

end Scenario
