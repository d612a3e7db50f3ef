import Scenario.Proofs.Flow.Reread
import Scenario.Proofs.Json.Compact
import Scenario.Proofs.Run.Job
import Scenario.Proofs.Text
import Scenario.Run.Event
/-!
The lines of a stream.

Whatever stands in the messages and payloads of a log, and in the variables and the error of a
result, each event is written on a line of its own, which is the text of one object. What is written
of a log at one time is the beginning of what is written later.
-/
namespace Scenario

open Json (Value)

theorem Json.Value.field?_mapDoubles (f : Number.Double → Number.Double) (key : String)
    (v : Value) : (v.mapDoubles f).field? key = (v.field? key).map (mapDoubles f) := by
  cases v with
  | null | bool | string => rfl
  | number n => cases n <;> rfl
  | array items =>
    rw [mapDoubles_array]
    rfl
  | object fields =>
    rw [mapDoubles_object, field?, field?]
    induction fields with
    | nil => rfl
    | cons field later ih =>
      rw [List.map_cons, Entries.get?, Entries.get?]
      split
      · rfl
      · exact ih

namespace RunEvent

/-- The line is the text of one object, from its beginning to its end: it has the tag of the event
and is otherwise what the event is written as. -/
structure Line (event : RunEvent) (line : List Char) : Prop where
  solid : line ≠ []
  unbroken : '\n' ∉ line
  object : ∃ fuel depth fields, Json.Parser.value fuel depth line = .ok (.object fields, []) ∧
    Value.object fields = event.written.reread
  tagged : event.written.reread.field? "type" = some (.string event.tag)
  identified : ∀ result, event = .result result →
    event.written.reread.field? "runId" = some (.string result.runId.text)

/-- The text has a line for each entry of a log, in their order, then one for a result, and nothing
behind that. -/
def Frames (log : List LogEntry) (result : RunResult) (text : String) : Prop :=
  ∃ lines last, Text.splitOn '\n' text.toList = lines ++ [last, []] ∧
    List.Forall₂ (fun entry => Line (.log entry)) log lines ∧ Line (.result result) last

theorem line_written (event : RunEvent) : Line event event.written.compactChars where
  solid := by simp [written, encodeBy, Value.compactChars]
  unbroken member := absurd (Json.Printable.compactChars event.written _ member) (by decide)
  object := by
    obtain ⟨fuel, depth, read⟩ := event.written.read_compactChars
    have isObject : ∃ fields, Value.object fields = event.written.reread :=
      ⟨_, (Value.mapDoubles_object _ _).symm⟩
    obtain ⟨fields, same⟩ := isObject
    exact ⟨fuel, depth, fields, same ▸ read, same⟩
  tagged := by
    have found : event.written.field? "type" = some (.string event.tag) := rfl
    rw [Value.reread, Value.field?_mapDoubles, found]
    rfl
  identified := by
    rintro result rfl
    have found : (written (.result result)).field? "runId" = some (.string result.runId.text) := rfl
    rw [Value.reread, Value.field?_mapDoubles, found]
    rfl

theorem splitOn_text (events : List RunEvent) :
    Text.splitOn '\n' (text events).toList = (events.map (·.written.compactChars)) ++ [[]] := by
  have lines : (text events).toList =
      (events.map (·.written.compactChars)).flatMap (· ++ ['\n']) := by
    rw [text, String.toList_join, List.flatMap_map, List.flatMap_map]
    simp [line, Value.compact]
  rw [lines, Text.splitOn_flatMap]
  intro piece member
  obtain ⟨event, -, rfl⟩ := List.mem_map.mp member
  exact event.line_written.unbroken

/-- Whatever is in a log and a result, their stream has one line for each. -/
theorem frames_text (log : List LogEntry) (result : RunResult) :
    Frames log result (text (stream log result)) := by
  refine ⟨log.map fun entry => (written (.log entry)).compactChars,
    (written (.result result)).compactChars, ?_, ?_, line_written _⟩
  · rw [splitOn_text, stream, List.map_append, List.map_map, List.append_assoc]
    rfl
  · rw [List.forall₂_map_right_iff, List.forall₂_same]
    exact fun entry _ => line_written (.log entry)

end RunEvent

namespace Run

end Run

namespace Job

theorem runId_of_result {job : Job} {id : RunId} {result : RunResult}
    (reported : job.result? id = some result) : result.runId = id := by
  cases job with
  | rejected e time =>
    cases reported
    rfl
  | accepted run =>
    obtain ⟨ending, -, rfl⟩ := Option.map_eq_some_iff.mp reported
    rfl

theorem afterAll_append (job : Job) (events later : List Event) :
    job.afterAll (events ++ later) = (job.afterAll events).afterAll later :=
  List.foldl_append

end Job

end Scenario
