import Scenario.Proofs.Alone
import Scenario.Proofs.Api.Bodies
import Scenario.Proofs.Api.Flows
import Scenario.Proofs.Json.Compact
import Scenario.Proofs.Run.Id
/-!
Saved flows and posted ones.

A flow that was saved is run from the text of its file, with settings that stand by themselves; a
flow that is posted is run from the document in the body, beside its settings. Both runs are started
with the same graph, variables and time limit, and so they do the same.
-/
namespace Scenario

namespace RunEvent

/-- The event without ids and times. -/
def undated : RunEvent → RunEvent
  | .log entry => .log entry.undated
  | .result report => .result report.undated

theorem map_undated_stream (log : List LogEntry) (report : RunResult) :
    (stream log report).map undated = stream (log.map LogEntry.undated) report.undated := by
  simp [stream, undated, Function.comp_def]

end RunEvent

namespace Api

open Handling
open Json (Value)

variable {service : Service} {fuel : Nat} {request : Incoming} {name : String}

section Saving

theorem jsonBody_eq_ok_iff {body : String} :
    jsonBody request = .ok body ↔ request.contentType.any isJsonType = true ∧
      request.body.utf8ByteSize ≤ bodyLimit ∧ request.body = body := by
  unfold jsonBody
  split <;> simp [*, wholeBody_eq_ok_iff]

theorem jsonBody_of_large (typed : request.contentType.any isJsonType = true)
    (large : bodyLimit < request.body.utf8ByteSize) :
    jsonBody request = .error .contentTooLarge := by
  rw [jsonBody, if_pos typed, wholeBody_of_large large]

theorem fair_jsonBody (request : Incoming) (status : Status)
    (refused : jsonBody request = .error status) : status ≠ .ok := by
  unfold jsonBody at refused
  split at refused
  · unfold wholeBody at refused
    split at refused
    · cases refused
    · cases refused
      nofun
  · cases refused
    nofun

theorem fair_validate (flow : Flow) (status : Status)
    (refused : validate flow = .error status) : status ≠ .ok := by
  unfold validate at refused
  split at refused
  · cases refused
  · cases refused
    exact ofError_ne_ok _

theorem fair_saveFlow (fuel : Nat) (name : String) (request : Incoming) :
    Fair (saveFlow fuel name request) := by
  refine .bind (.demand (fair_jsonBody request)) fun body => ?_
  refine .bind (.demand (ne_ok_of_mapError nofun)) fun document => .bind .service fun service => ?_
  refine .bind (.demand (ne_ok_of_mapError ofError_ne_ok)) fun flow => ?_
  cases flow with
  | none => exact .refuse nofun
  | some flow =>
    exact .bind (.demand (fair_validate flow)) fun _ => .bind .newId fun id =>
      .bind (.onDisk fuel (service.collection.update name flow id)) fun _ => .pure _

theorem saved_of_ok {document : Value} (parsed : Json.parse request.body = .ok document)
    {answer : Answer} {left : Service}
    (saved : (saveFlow fuel name request).on service = (.ok answer, left)) :
    ∃ flow graph path id, service.collection.registry.decode document = .ok (some flow) ∧
      Graph.build flow = .ok graph ∧ left.collection = service.collection ∧
      (service.collection.update name flow id).run service.disk = (.ok path, left.disk) := by
  obtain ⟨_, typed, saved⟩ := demand_bind_eq_ok.mp saved
  obtain ⟨-, -, rfl⟩ := jsonBody_eq_ok_iff.mp typed
  obtain ⟨read, readable, saved⟩ := demand_bind_eq_ok.mp saved
  rw [readJson, parsed] at readable
  cases readable
  obtain ⟨_, _, here, saved⟩ := on_bind_eq_ok.mp saved
  cases here
  obtain ⟨loaded, decoded, saved⟩ := demand_bind_eq_ok.mp saved
  cases loaded with
  | none => cases saved
  | some flow =>
    obtain ⟨_, valid, saved⟩ := demand_bind_eq_ok.mp saved
    obtain ⟨graph, built⟩ := build_of_validate valid
    obtain ⟨id, _, numbered, saved⟩ := on_bind_eq_ok.mp saved
    cases numbered
    obtain ⟨path, _, updated, saved⟩ := on_bind_eq_ok.mp saved
    cases saved
    obtain ⟨done, left⟩ := Prod.mk.inj updated
    exact ⟨flow, graph, path, _, Success.mapError_iff.mp decoded, built, left ▸ rfl,
      Prod.ext (Success.mapError_iff.mp done) (left ▸ rfl)⟩

theorem put_of_asks (asks : request.Asks "PUT" .flow name) :
    service.handle fuel request =
      (.ofResult ((saveFlow fuel name request).on service).1,
        ((saveFlow fuel name request).on service).2) := by
  obtain ⟨method, written, found, decoded⟩ := asks
  rw [handle_of_route (by simp [method]) found, handleRoute, if_neg (by simp [method]),
    if_neg (by simp [method]), if_pos method, segment_eq decoded, pure_bind]

theorem put_of_large (asks : request.Asks "PUT" .flow name)
    (typed : request.contentType.any isJsonType = true)
    (large : bodyLimit < request.body.utf8ByteSize) :
    service.handle fuel request = (.ofStatus .contentTooLarge, service) := by
  rw [put_of_asks asks, saveFlow, jsonBody_of_large typed large]
  rfl

/-- A document that makes a graph is saved exactly if the disk takes the file of its flow. -/
theorem saveFlow_of_built {flow : Flow} {graph : Graph}
    (typed : request.contentType.any isJsonType = true)
    (small : request.body.utf8ByteSize ≤ bodyLimit) {document : Value}
    (parsed : Json.parse request.body = .ok document)
    (decoded : service.collection.registry.decode document = .ok (some flow))
    (built : Graph.build flow = .ok graph) :
    (saveFlow fuel name request).on service =
      let (result, disk) :=
        (service.collection.update name flow (.ofNat service.issued)).run service.disk
      (match result with
        | .ok _ => .ok (.ofContent .ok (.json (flowMessage name "saved successfully")))
        | .error e => .error (.ofError e),
      { service with disk, issued := service.issued + 1, runner := service.runner.settle fuel }) := by
  have body : jsonBody request = .ok request.body := jsonBody_eq_ok_iff.mpr ⟨typed, small, rfl⟩
  have read : readJson request.body = .ok document := Success.mapError_iff.mpr parsed
  have loaded : decodeFlow service.collection.registry document = .ok (some flow) :=
    Success.mapError_iff.mpr decoded
  have valid : validate flow = .ok () := by
    rw [validate, built]
  rcases ran : (service.collection.update name flow (.ofNat service.issued)).run service.disk with
    ⟨result, disk⟩
  cases result <;>
    simp [saveFlow, on_bind, body, read, loaded, valid, Service.newId, ran, Except.mapError,
      Except.map]

/-- What is reported as saved is read again as the flow of the document, which makes a graph. -/
theorem read_of_put (standard : service.collection.registry = .standard)
    (asks : request.Asks "PUT" .flow name) {document : Value}
    (parsed : Json.parse request.body = .ok document) (back : ∀ d ∈ document.doubles, d.ReadsBack)
    (answered : (service.handle fuel request).1.status = .ok) :
    ∃ flow graph, service.collection.registry.decode document = .ok (some flow) ∧
      graphToRun (.ok (some flow)) = .ok graph ∧
      (service.handle fuel request).2.collection = service.collection ∧
      (service.collection.read name).run (service.handle fuel request).2.disk =
        (.ok (some flow), (service.handle fuel request).2.disk) := by
  rw [put_of_asks asks] at answered ⊢
  rcases ended : (saveFlow fuel name request).on service with ⟨result, left⟩
  rw [ended] at answered
  cases result with
  | error status =>
    have refused := congrArg Prod.fst ended
    exact absurd answered (fair_saveFlow fuel name request service status refused)
  | ok answer =>
    obtain ⟨flow, graph, path, id, decoded, built, same, updated⟩ := saved_of_ok parsed ended
    refine ⟨flow, graph, decoded, ?_, same, ?_⟩
    · rw [graphToRun, built]
      rfl
    · rw [standard] at decoded
      obtain ⟨ordered, shallow⟩ := Json.ordered_of_parse parsed
      have fits : document.Fits Number.Double.ReadsBack (122 + 5) := ⟨ordered, shallow, back⟩
      have savable : Flow.Savable (some flow) := by
        refine ⟨?_, Flow.fits_document decoded fits⟩
        rintro flow ⟨⟩
        exact storable_of_decode decoded
      have written : service.collection.registry.write (some flow) =
          .ok (Flow.savedText (some flow)) := standard ▸ Flow.write_savedText (some flow)
      rw [Collection.read_of_update written updated, standard, savable.read_savedText]

end Saving

section Running

theorem post_of_route (method : request.method = "POST")
    (route : Route.ofTarget? request.target = some .runs) :
    service.handle fuel request =
      (.ofResult ((startRun fuel request).on service).1,
        ((startRun fuel request).on service).2) := by
  rw [handle_of_route (by simp [method]) route, handleRoute, if_neg (by simp [method]),
    if_pos method]

theorem post_of_large (method : request.method = "POST")
    (route : Route.ofTarget? request.target = some .runs)
    (typed : request.contentType.any isJsonType = true)
    (large : bodyLimit < request.body.utf8ByteSize) :
    service.handle fuel request = (.ofStatus .contentTooLarge, service) := by
  rw [post_of_route method route, startRun, jsonBody_of_large typed large]
  rfl

theorem startRun_on (fuel : Nat) {posted : RunRequest}
    (typed : request.contentType.any isJsonType = true)
    (small : request.body.utf8ByteSize ≤ bodyLimit)
    (read : RunRequest.read request.body = .ok posted) (service : Service) :
    ∃ times, (startRun fuel request).on service =
      match service.options posted.settings with
      | .ok options => (submit options (service.collection.registry.decode posted.flow)).on
          { service with runner := (Runner.settle fuel)^[times] service.runner }
      | .error status => (.error status,
          { service with runner := (Runner.settle fuel)^[times] service.runner }) := by
  obtain ⟨times, ran⟩ := runOptions_on fuel posted.settings service
  have body : jsonBody request = .ok request.body := jsonBody_eq_ok_iff.mpr ⟨typed, small, rfl⟩
  refine ⟨times, ?_⟩
  simp only [startRun, on_bind, on_demand, body, read, ran, on_service]
  cases service.options posted.settings <;> rfl

/-- A saved flow is to be run with settings. -/
structure Incoming.RunsSaved (request : Incoming) (name : String)
    (settings : List (String × Value)) : Prop where
  asks : request.Asks "POST" .runFlow name
  body : Json.parse request.body = .ok (.object settings)

/-- A document is to be run with settings, which stand beside it in any order; no key of the body
stands twice. -/
structure Incoming.RunsPosted (request : Incoming) (document : Value)
    (settings : List (String × Value)) : Prop where
  method_eq : request.method = "POST"
  route : Route.ofTarget? request.target = some .runs
  json : request.contentType.any isJsonType = true
  body : Json.parse request.body = .ok (.object (Entries.insert "flow" document settings))
  distinct : ∀ written, Json.parseAsWritten request.body = .ok (.object written) →
    (written.map Prod.fst).Nodup

/-- What a service with nothing to do answers and becomes when it is to run a flow. -/
def Service.launch (service : Service) (settings : RunSettings)
    (loaded : Except FlowError (Option Flow)) : Answer × Service :=
  match service.options settings with
  | .error status => (.ofStatus status, service)
  | .ok options =>
    (.ofContent .ok (.stream (.ofNat service.issued)),
      { service with issued := service.issued + 1,
                     runner := service.runner.submit (.ofNat service.issued) options loaded })

theorem saved_launches (idle : service.runner.Idle) (asks : request.Asks "POST" .runFlow name)
    (small : request.body.utf8ByteSize ≤ bodyLimit)
    {settings : RunSettings} {loaded : Option Flow}
    (read : readSettings request.body = .ok settings)
    (found : (service.collection.read name).run service.disk = (.ok loaded, service.disk)) :
    service.handle fuel request = service.launch settings (.ok loaded) := by
  obtain ⟨times, ran⟩ := runFlow_on fuel read found
  rw [Function.iterate_fixed (idle.settle fuel)] at ran
  rw [run_of_asks asks small, ran, Service.launch]
  cases service.options settings <;> rfl

theorem posted_launches (idle : service.runner.Idle) {document : Value}
    {settings : List (String × Value)} (runs : request.RunsPosted document settings)
    (small : request.body.utf8ByteSize ≤ bodyLimit) {posted : RunRequest}
    (read : RunRequest.read request.body = .ok posted) :
    service.handle fuel request =
      service.launch posted.settings (service.collection.registry.decode posted.flow) := by
  obtain ⟨times, ran⟩ := startRun_on fuel runs.json small read service
  rw [Function.iterate_fixed (idle.settle fuel)] at ran
  rw [post_of_route runs.method_eq runs.route, ran, Service.launch]
  cases service.options posted.settings <;> rfl

/-- Both services have the same collection and nothing to do, and will get the same replies; the
next id of each was not given out yet. -/
structure Service.Peers (service peer : Service) : Prop where
  collection : peer.collection = service.collection
  disk : peer.disk = service.disk
  timeout : peer.timeout = service.timeout
  runners : service.runner.Peers peer.runner
  unused : service.runner.job? (.ofNat service.issued) = none
  peerUnused : peer.runner.job? (.ofNat peer.issued) = none

theorem readStream_undated (fuel : Nat) (id : RunId) (service : Service) :
    (service.readStream fuel id).1.map (·.map RunEvent.undated) =
      (((Runner.finish id fuel service.runner).outcome? id).map
        (Prod.map (·.map LogEntry.undated) RunResult.undated)).map
          fun report => RunEvent.stream report.1 report.2 := by
  simp only [Service.readStream]
  cases (Runner.finish id fuel service.runner).outcome? id with
  | none => rfl
  | some report => exact congrArg some (RunEvent.map_undated_stream report.1 report.2)

variable {peer : Service}

theorem Service.Peers.options (peers : service.Peers peer) (settings : RunSettings) :
    peer.options settings = service.options settings := by
  simp only [Service.options, peers.collection, peers.disk, peers.timeout]

/-- Both answers have the same status. Either both start a run or none does, and then what is read
of the streams differs in ids and times alone, whenever one stops reading: the lines so far, and the
whole stream once the run has ended. -/
structure Alike (answer other : Answer × Service) : Prop where
  status : other.1.status = answer.1.status
  starts : (∃ id, answer.1.content = .stream id) ↔ ∃ id, other.1.content = .stream id
  logs : ∀ id otherId, answer.1.content = .stream id → other.1.content = .stream otherId →
    ∀ fuel, ((other.2.readStream fuel otherId).2.runner.job? otherId).map
        (fun job => job.log.map LogEntry.undated) =
      ((answer.2.readStream fuel id).2.runner.job? id).map fun job => job.log.map LogEntry.undated
  streams : ∀ id otherId, answer.1.content = .stream id → other.1.content = .stream otherId →
    ∀ fuel, (other.2.readStream fuel otherId).1.map (·.map RunEvent.undated) =
      (answer.2.readStream fuel id).1.map (·.map RunEvent.undated)

theorem Service.Peers.launch (peers : service.Peers peer) (settings : RunSettings)
    {loaded : Except FlowError (Option Flow)} {graph : Graph}
    (made : graphToRun loaded = .ok graph) :
    Alike (service.launch settings loaded) (peer.launch settings loaded) := by
  rw [Service.launch, Service.launch, peers.options]
  cases service.options settings with
  | error status => exact ⟨rfl, iff_of_false nofun nofun, nofun, nofun⟩
  | ok options =>
    have seen := peers.runners.seenAlike peers.unused peers.peerUnused options made
    refine ⟨rfl, iff_of_true ⟨_, rfl⟩ ⟨_, rfl⟩, ?_, ?_⟩
    · rintro _ _ ⟨⟩ ⟨⟩ fuel
      exact (seen fuel).log
    · rintro _ _ ⟨⟩ ⟨⟩ fuel
      rw [readStream_undated, readStream_undated]
      exact congrArg _ (seen fuel).outcome

/-- Whatever document was saved, running the saved flow with some settings is like running the
document that is posted beside the same settings, unless a body is too large: both answers have the
same status, and if runs are started then their streams differ in ids and times alone. A request
whose body is too large is refused. -/
theorem Service.saved_runs_as_posted {service first second : Service} {put saved posted : Incoming}
    {name : String} {document : Value} {settings : List (String × Value)}
    (standard : service.collection.registry = .standard) (puts : put.Asks "PUT" .flow name)
    (read : Json.parse put.body = .ok document) (back : ∀ d ∈ document.doubles, d.ReadsBack)
    (fuel : Nat) (done : (service.handle fuel put).1.status = .ok)
    (collection : first.collection = (service.handle fuel put).2.collection)
    (disk : first.disk = (service.handle fuel put).2.disk) (peers : first.Peers second)
    (typed : WellTyped settings) (runsSaved : saved.RunsSaved name settings)
    (runsPosted : posted.RunsPosted document settings) (firstFuel secondFuel : Nat) :
    (saved.body.utf8ByteSize ≤ bodyLimit → posted.body.utf8ByteSize ≤ bodyLimit →
      Alike (first.handle firstFuel saved) (second.handle secondFuel posted)) ∧
    (bodyLimit < saved.body.utf8ByteSize →
      first.handle firstFuel saved = (.ofStatus .contentTooLarge, first)) ∧
    (bodyLimit < posted.body.utf8ByteSize →
      second.handle secondFuel posted = (.ofStatus .contentTooLarge, second)) := by
  refine ⟨fun savedSmall postedSmall => ?_, run_of_large runsSaved.asks,
    post_of_large runsPosted.method_eq runsPosted.route runsPosted.json⟩
  obtain ⟨flow, graph, decoded, made, same, found⟩ := read_of_put standard puts read back done
  obtain ⟨given, reads, readsToo⟩ :=
    exists_settings typed runsSaved.body runsPosted.body runsPosted.distinct
  rw [← same, ← collection] at decoded
  rw [← same, ← collection, ← disk] at found
  rw [saved_launches peers.runners.idle runsSaved.asks savedSmall reads found,
    posted_launches peers.runners.peerIdle runsPosted postedSmall readsToo, peers.collection,
    decoded]
  exact peers.launch given made

/-- A flow that waits for five milliseconds, as it is saved. -/
def savingPause : Incoming :=
  ⟨"PUT", "/api/flows/smoke", some "application/json",
    "\x7b\"nodes\": [\x7b\"id\": \"pause\", \"type\": \"delayNode\",
      \"data\": \x7b\"delay\": 5\x7d\x7d]\x7d"⟩

def pauseDocument : Value :=
  .object [("nodes", .array [.object [("data", .object [("delay", .whole (.ofUInt64 5))]),
    ("id", .string "pause"), ("type", .string "delayNode")]])]

def pauseSettings : List (String × Value) :=
  [("timeoutMs", .whole (.ofUInt64 9)), ("verbose", .bool true)]

def runningPause : Incoming :=
  ⟨"POST", "/api/flows/smoke/run", none, "\x7b\"timeoutMs\": 9, \"verbose\": true\x7d"⟩

def postingPause : Incoming :=
  ⟨"POST", "/api/runs", some "application/json",
    "\x7b\"verbose\": true, \"flow\": \x7b\"nodes\": [\x7b\"type\": \"delayNode\",
      \"id\": \"pause\", \"data\": \x7b\"delay\": 5\x7d\x7d]\x7d, \"timeoutMs\": 9\x7d"⟩

def pauseService (runner : Runner) (issued : Nat) : Service :=
  { (shelfService.handle 9 savingPause).2 with runner, issued }

theorem asks_savingPause : savingPause.Asks "PUT" .flow "smoke" :=
  asks_smoke rfl

theorem parse_savingPause : Json.parse savingPause.body = .ok pauseDocument := by
  rw [Json.parse, Json.parseAsWritten, savingPause, String.toList_ofList]
  decide +kernel

theorem sound_pausing : Flow.Sound (some Collection.pausing) := by
  have decoded : decodeFlow Registry.standard pauseDocument = .ok (some Collection.pausing) := by
    rfl
  exact Posted.sound ⟨savingPause.body, pauseDocument, Success.mapError_iff.mpr parse_savingPause,
    decoded, by rfl⟩

theorem shelf_takes (puts : request.Asks "PUT" .flow "smoke")
    (typed : request.contentType.any isJsonType = true)
    (small : request.body.utf8ByteSize ≤ bodyLimit) {document : Value} {flow : Flow}
    (parsed : Json.parse request.body = .ok document)
    (decoded : Registry.standard.decode document = .ok (some flow))
    (sound : Flow.Sound (some flow)) : ∃ disk,
      shelfService.handle 9 request =
        (.ofContent .ok (.json (flowMessage "smoke" "saved successfully")),
          { shelfService with disk, issued := 1, runner := shelfService.runner.settle 9 }) ∧
      disk.limits = shelfService.disk.limits ∧ Collection.shelf.Stores Flow.Sound disk
        ((∅ : Dict (Option Flow)).insert "smoke" (some flow)) := by
  have stores : Collection.shelf.Stores Flow.Sound shelfService.disk ∅ :=
    Collection.vacant_shelf.stores
  have loaded : shelfService.collection.registry.decode document = .ok (some flow) := decoded
  obtain ⟨graph, built⟩ := Graph.build_of_runnable (sound.runnable _ rfl)
  obtain ⟨disk, ⟨-, -, ran, contains⟩ | ⟨unheld, -⟩⟩ := Collection.update_cases
    stores.contains (by decide : isName "smoke" = true) (.ofNat 0)
    (Flow.write_savedText (some flow))
  · have start : shelfService.collection = .shelf ∧ shelfService.issued = 0 := ⟨rfl, rfl⟩
    refine ⟨disk, ?_, FileTask.limits_of_run ran, stores.insert sound contains⟩
    rw [put_of_asks puts, saveFlow_of_built typed small parsed loaded built, start.1, start.2, ran]
    rfl
  · exact absurd ⟨by decide, by decide⟩ unheld

theorem shelf_savingPause : ∃ disk,
    shelfService.handle 9 savingPause =
      (.ofContent .ok (.json (flowMessage "smoke" "saved successfully")),
        { shelfService with disk, issued := 1, runner := shelfService.runner.settle 9 }) ∧
    disk.limits = shelfService.disk.limits ∧ Collection.shelf.Stores Flow.Sound disk
      ((∅ : Dict (Option Flow)).insert "smoke" (some Collection.pausing)) :=
  shelf_takes asks_savingPause (by decide) (by decide) parse_savingPause (by rfl) sound_pausing

theorem status_savingPause : (shelfService.handle 9 savingPause).1.status = .ok := by
  obtain ⟨disk, saved, -⟩ := shelf_savingPause
  rw [saved]
  rfl

def quietRunner : Runner := .start .standard 0 0 .offline

def laterRunner : Runner := { Runner.start .standard 0 1000000 .offline with clock := 7 }

theorem runsSaved_runningPause : runningPause.RunsSaved "smoke" pauseSettings where
  asks := ⟨rfl, "smoke".toList, by decide, by decide +kernel⟩
  body := by
    rw [Json.parse, Json.parseAsWritten, runningPause, String.toList_ofList]
    decide +kernel

theorem runsPosted_postingPause : postingPause.RunsPosted pauseDocument pauseSettings where
  method_eq := rfl
  route := by decide
  json := by decide
  body := by
    rw [Json.parse, Json.parseAsWritten, postingPause, String.toList_ofList]
    decide +kernel
  distinct written same := by
    have read : Json.parseAsWritten postingPause.body =
        .ok (.object [("verbose", .bool true), ("flow", .object [("nodes", .array [.object [
          ("type", .string "delayNode"), ("id", .string "pause"),
          ("data", .object [("delay", .whole (.ofUInt64 5))])]])]),
          ("timeoutMs", .whole (.ofUInt64 9))]) := by
      rw [Json.parseAsWritten, postingPause, String.toList_ofList]
      decide +kernel
    cases read.symm.trans same
    decide

theorem pause_runs_as_posted :
    let first := pauseService quietRunner 0
    let second := pauseService laterRunner 5
    (shelfService.handle 9 savingPause).1.status = .ok ∧ WellTyped pauseSettings ∧
      Alike (first.handle 9 runningPause) (second.handle 9 postingPause) ∧
      ∃ events, (first.handle 9 runningPause).1.content = .stream (.ofNat 0) ∧
        ((first.handle 9 runningPause).2.readStream 9 (.ofNat 0)).1 = some events ∧
        events.length = 2 := by
  have typed : WellTyped pauseSettings := by
    constructor
    · rintro v ⟨⟩
      exact .inr ⟨9, rfl⟩
    · exact nofun
    · exact nofun
    · rfl
  have back : ∀ d ∈ pauseDocument.doubles, d.ReadsBack := by
    have none : pauseDocument.doubles = [] := by rfl
    simp [none]
  have peers : (pauseService quietRunner 0).Peers (pauseService laterRunner 5) :=
    ⟨rfl, rfl, rfl, ⟨⟨rfl, rfl, rfl⟩, ⟨rfl, rfl, rfl⟩, rfl, rfl, rfl⟩, rfl, rfl⟩
  have collection : (pauseService quietRunner 0).collection =
      (shelfService.handle 9 savingPause).2.collection := rfl
  refine ⟨status_savingPause, typed, ?_, ?_⟩
  · have runs := Service.saved_runs_as_posted rfl asks_savingPause parse_savingPause back 9
      status_savingPause collection rfl peers typed runsSaved_runningPause runsPosted_postingPause
      9 9
    exact runs.1 (by decide) (by decide)
  · obtain ⟨flow, graph, decoded, made, same, found⟩ :=
      read_of_put rfl asks_savingPause parse_savingPause back status_savingPause
    cases decoded
    have given : readSettings runningPause.body = .ok ⟨some 9, {}, none⟩ := by
      have body := runsSaved_runningPause.body
      simp only [readSettings, readOptionalJson, not_blank_of_parse body, readJson, body]
      rfl
    have launched : (pauseService quietRunner 0).handle 9 runningPause = _ :=
      saved_launches peers.runners.idle runsSaved_runningPause.asks (by decide) given
        (same ▸ found)
    rw [launched]
    exact ⟨_, rfl, rfl, rfl⟩

def letters (count : Nat) : String := String.ofList (List.replicate count 'a')

def notedPause (note : String) : Value :=
  .object [("nodes", .array [.object [("data", .object [("delay", .whole (.ofUInt64 5))]),
    ("id", .string "pause"), ("note", .string note), ("type", .string "delayNode")]])]

def notedFlow (note : String) : Flow :=
  ⟨[⟨"pause", .delay 5, (∅ : Dict Value).insert "note" (.string note)⟩], []⟩

theorem decode_notedPause (note : String) :
    Registry.standard.decode (notedPause note) = .ok (some (notedFlow note)) := by
  rfl

theorem parse_notedPause (note : String) :
    Json.parse (notedPause note).compact = .ok (notedPause note) := by
  have keys : ["data", "id", "note", "type"].Pairwise (· < ·) := by decide
  have ordered : (notedPause note).Ordered :=
    ⟨List.pairwise_singleton .., ⟨⟨List.pairwise_map.mp keys,
      ⟨List.pairwise_singleton .., trivial, trivial⟩, trivial, trivial, trivial, trivial⟩, trivial⟩,
      trivial⟩
  have none : (notedPause note).doubles = [] := by rfl
  have shallow : (notedPause note).nesting = 4 := by rfl
  have read := Value.parse_compact ordered (shallow.trans_le (by decide))
  rwa [Value.reread_of_readsBack (by simp [none])] at read

theorem sound_notedFlow (note : String) : Flow.Sound (some (notedFlow note)) :=
  Posted.sound ⟨_, _, Success.mapError_iff.mpr (parse_notedPause note),
    Success.mapError_iff.mpr (decode_notedPause note), by rfl⟩

theorem utf8ByteSize_notedPause (count : Nat) :
    (notedPause (letters count)).compact.utf8ByteSize = count + 74 := by
  have five : (Value.whole (.ofUInt64 5)).compactChars = ['5'] := by decide +kernel
  have written : (notedPause (letters count)).compactChars =
      "\x7b\"nodes\":[\x7b\"data\":\x7b\"delay\":5\x7d,\"id\":\"pause\",\"note\":\"".toList ++
        List.replicate count 'a' ++ "\",\"type\":\"delayNode\"\x7d]\x7d".toList := by
    simp [notedPause, Value.compactChars, Value.compactFields, Value.compactItems, five,
      Json.quoted, Json.escapeChar, letters, List.flatMap_replicate]
  have ascii : ∀ c ∈ List.replicate count 'a', c.utf8Size = 1 := by
    intro c member
    rw [List.eq_of_mem_replicate member]
    decide
  rw [Value.compact, written, String.ofList_append, String.ofList_append, String.ofList_toList,
    String.ofList_toList, String.utf8ByteSize_append, String.utf8ByteSize_append,
    RunId.utf8ByteSize_of_ascii ascii, List.length_replicate]
  change 51 + count + 23 = count + 74
  omega

theorem utf8ByteSize_flowField (v : Value) :
    (Value.object [("flow", v)]).compact.utf8ByteSize = v.compact.utf8ByteSize + 9 := by
  have written : (Value.object [("flow", v)]).compact = "\x7b\"flow\":" ++ v.compact ++ "\x7d" := by
    rw [Value.compact, Value.compactChars, Value.compactFields, Value.compact]
    apply String.toList_injective
    simp [Json.quoted, Json.escapeChar]
  rw [written, String.utf8ByteSize_append, String.utf8ByteSize_append]
  change 8 + _ + 1 = _
  omega

/-- A document that is just small enough can be saved and its flow be run, but it cannot be posted,
as its key makes the body too large. -/
theorem largest_runs_unlike :
    let document := notedPause (letters 2097078)
    let (answer, service) := shelfService.handle 9
      ⟨"PUT", "/api/flows/smoke", some "application/json", document.compact⟩
    answer.status = .ok ∧ WellTyped [] ∧
      (service.handle 9 ⟨"POST", "/api/flows/smoke/run", none, "\x7b\x7d"⟩).1.status = .ok ∧
      (service.handle 9 ⟨"POST", "/api/runs", some "application/json",
        (Value.object [("flow", document)]).compact⟩).1.status = .contentTooLarge := by
  intro document
  let flow := notedFlow (letters 2097078)
  have size : document.compact.utf8ByteSize = 2097152 := utf8ByteSize_notedPause 2097078
  obtain ⟨disk, put, -, stores⟩ := shelf_takes (asks_smoke rfl : Incoming.Asks
      ⟨"PUT", "/api/flows/smoke", some "application/json", document.compact⟩ "PUT" .flow "smoke")
    (by decide) size.le (parse_notedPause _) (decode_notedPause _) (sound_notedFlow _)
  rw [put]
  refine ⟨rfl, ⟨nofun, nofun, nofun, rfl⟩, ?_, ?_⟩
  · let left : Service :=
      { shelfService with disk, issued := 1, runner := shelfService.runner.settle 9 }
    have stored : Collection.shelf.Stores Flow.Sound left.disk
      ((∅ : Dict (Option Flow)).insert "smoke" (some flow)) := stores
    have bound : ((∅ : Dict (Option Flow)).insert "smoke" (some flow)).get? "smoke" =
        some (some flow) := by
      rw [Dict.get?_insert, if_pos rfl]
    have asks : Incoming.Asks ⟨"POST", "/api/flows/smoke/run", none, "\x7b\x7d"⟩ "POST" .runFlow
      "smoke" := ⟨rfl, "smoke".toList, by decide, by decide +kernel⟩
    have read : readSettings "\x7b\x7d" = .ok .none := by decide +kernel
    obtain ⟨id, started⟩ := (handle_run_of_stores stored 9 rfl rfl bound asks).1 (by decide)
      ⟨_, _, read, rfl⟩
    rw [started]
    rfl
  · rw [post_of_large rfl (by decide) (by decide) (by rw [utf8ByteSize_flowField, size]; decide)]
    rfl

end Running

end Api

end Scenario
