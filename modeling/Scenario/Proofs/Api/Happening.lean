import Scenario.Proofs.Api.Handling
import Scenario.Proofs.FileTask
import Scenario.Proofs.Success
/-!
What can happen to a service.

A service is asked for something, sleeps, or has a stream read. An invariant of the service holds
after everything that happens if it is kept by the few things that requests are made of: looking at
the disk, saving a flow that was posted, deleting one, and handing over and cancelling runs.
-/
namespace Scenario.Api

open Handling

/-- Everything that can happen to a service. -/
inductive Happening where
  | request (fuel : Nat) (request : Incoming)
  | sleep (fuel duration : Nat)
  | reading (fuel : Nat) (id : RunId)

namespace Service

def after (service : Service) : Happening → Service
  | .request fuel request => (service.handle fuel request).2
  | .sleep fuel duration => service.sleep fuel duration
  | .reading fuel id => (service.readStream fuel id).2

def afterAll (service : Service) (happenings : List Happening) : Service :=
  happenings.foldl after service

end Service

/-- A flow that was read from a document somebody posted, and that makes a graph. -/
def Posted (registry : Registry) (flow : Flow) : Prop :=
  ∃ text document, readJson text = .ok document ∧
    decodeFlow registry document = .ok (some flow) ∧ validate flow = .ok ()

/-- What requests are made of keeps the invariant. -/
structure Closed (holds : Service → Prop) : Prop where
  looking : ∀ {α : Type} (fuel : Nat) {task : FileTask α}, task.Looks →
    Preserves holds (onDisk fuel task)
  creating : ∀ (fuel : Nat) (name : String) (flow : Option Flow) (service : Service),
    holds service → (∀ saved ∈ flow, Posted service.collection.registry saved) →
    Preserves holds (onDisk fuel (service.collection.create name flow))
  updating : ∀ (fuel : Nat) (name : String) (flow : Flow) (id : RunId) (service : Service),
    holds service → Posted service.collection.registry flow →
    Preserves holds (onDisk fuel (service.collection.update name flow id))
  deleting : ∀ (fuel : Nat) (name : String) (service : Service), holds service →
    Preserves holds (onDisk fuel (service.collection.delete name))
  numbering : Preserves holds newId
  submitting : ∀ options loaded, Preserves holds (submit options loaded)
  cancelling : ∀ (service : Service) (id : RunId), holds service →
    holds { service with runner := (service.runner.cancel id).2 }
  sleeping : ∀ (service : Service) (fuel duration : Nat), holds service →
    holds (service.sleep fuel duration)
  reading : ∀ (service : Service) (fuel : Nat) (id : RunId), holds service →
    holds (service.readStream fuel id).2

theorem readJson_of_optional {body : String} {document : Json.Value}
    (read : readOptionalJson body = .ok (some document)) : readJson body = .ok document := by
  unfold readOptionalJson at read
  split at read
  · cases read
  · obtain ⟨v, done, same⟩ := Success.map_iff.mp read
    cases same
    exact done

theorem preserves_segment {holds : Service → Prop} (written : List Char) :
    Preserves holds (segment written) := by
  unfold segment
  split
  · exact .pure _
  · exact .refuse _

theorem preserves_segment_bind {holds : Service → Prop} {written : List Char}
    {next : String → Handling Answer} (rest : ∀ text, Preserves holds (next text)) :
    Preserves holds (segment written >>= next) :=
  .bind (preserves_segment written) rest

/-- What requests that change no file are made of keeps the invariant. -/
structure Calm (holds : Service → Prop) (carrier : Carrier := .steady) : Prop where
  looking : ∀ {α : Type} (fuel : Nat) {task : FileTask α}, task.Looks →
    Preserves holds (onDisk fuel task carrier)
  submitting : ∀ options loaded, Preserves holds (submit options loaded)
  cancelling : ∀ (service : Service) (id : RunId), holds service →
    holds { service with runner := (service.runner.cancel id).2 }

namespace Calm

variable {holds : Service → Prop} {carrier : Carrier} (calm : Calm holds carrier) {fuel : Nat}

include calm

theorem listFlows : Preserves holds (listFlows fuel carrier) :=
  .service_bind fun service _ =>
    .bind (calm.looking fuel service.collection.looks_list) fun _ => .pure _

theorem getFlow (name : String) : Preserves holds (getFlow fuel name carrier) :=
  .service_bind fun service _ =>
    .bind (calm.looking fuel (service.collection.looks_read name)) fun _ =>
      .demand_bind fun _ _ => .pure _

theorem runOptions (settings : RunSettings) :
    Preserves holds (runOptions fuel settings carrier) := by
  refine .service_bind fun service _ => ?_
  cases settings.environment with
  | none => exact .bind (.pure _) fun _ => .pure _
  | some name =>
    exact .bind (calm.looking fuel (Collection.looks_environment service.collection.root name))
      fun _ => .pure _

theorem startRun (request : Incoming) : Preserves holds (startRun fuel request carrier) :=
  .demand_bind fun _ _ => .demand_bind fun posted _ =>
    .bind (calm.runOptions posted.settings) fun _ => .service_bind fun _ _ =>
      calm.submitting _ _

theorem runFlow (name body : String) : Preserves holds (runFlow fuel name body carrier) := by
  refine .demand_bind fun settings _ => .service_bind fun service _ => .bind ?_ fun loaded => ?_
  · exact calm.looking fuel (service.collection.looks_read name)
  · have runs : Preserves holds
        (Api.runOptions fuel settings carrier >>= fun options => submit options loaded) :=
      .bind (calm.runOptions settings) fun options => calm.submitting options loaded
    split
    · exact .refuse _
    · exact .refuse _
    · exact runs

theorem cancelRun (written : String) : Preserves holds (cancelRun written) := by
  unfold Api.cancelRun
  cases RunId.ofText written with
  | error fault => exact .refuse _
  | ok id =>
    -- The runner that is put in is made of the one that was found.
    intro service before
    have cancelled := calm.cancelling service id before
    rw [on_bind_of_ok (on_service service), on_bind_of_ok (on_modify _ service)]
    cases found : (service.runner.cancel id).1 with
    | true => exact cancelled
    | false => exact cancelled

/-- Only requests for one flow can change a file. -/
theorem handleRoute (request : Incoming) {route : Route} (other : ∀ name, route ≠ .flow name) :
    Preserves holds (handleRoute fuel request route carrier) := by
  cases route with
  | health => exact .ite (.pure _) (.refuse _)
  | runs =>
    exact .ite (.service_bind fun _ _ => .pure _) (.ite (calm.startRun request) (.refuse _))
  | cancelRun id => exact .ite (preserves_segment_bind calm.cancelRun) (.refuse _)
  | flows => exact .ite calm.listFlows (.refuse _)
  | flow name => exact absurd rfl (other name)
  | runFlow name =>
    exact .ite (preserves_segment_bind fun text => .demand_bind fun body _ =>
      calm.runFlow text body) (.refuse _)

end Calm

namespace Closed

variable {holds : Service → Prop} (closed : Closed holds) {fuel : Nat}

include closed

theorem calm : Calm holds := ⟨closed.looking, closed.submitting, closed.cancelling⟩

theorem createFlow (name body : String) : Preserves holds (createFlow fuel name body) := by
  refine .service_bind fun service before => .demand_bind fun document read => ?_
  have creates {flow : Option Flow}
      (posted : ∀ saved ∈ flow, Posted service.collection.registry saved) (answer : Answer) :
      Preserves holds do
        let _ ← onDisk fuel (service.collection.create name flow)
        return answer :=
    .bind (closed.creating fuel name flow service before posted) fun _ => .pure _
  cases document with
  | none => exact creates (by simp) _
  | some document =>
    refine .demand_bind fun flow decoded => ?_
    cases flow with
    | none => exact creates (by simp) _
    | some flow =>
      refine .demand_bind fun _ valid => creates ?_ _
      rintro saved ⟨⟩
      exact ⟨body, document, readJson_of_optional read, decoded, valid⟩

theorem saveFlow (name : String) (request : Incoming) :
    Preserves holds (saveFlow fuel name request) := by
  refine .demand_bind fun body _ => .demand_bind fun document read => ?_
  refine .service_bind fun service before => .demand_bind fun flow decoded => ?_
  cases flow with
  | none => exact .refuse _
  | some flow =>
    refine .demand_bind fun _ valid => .bind closed.numbering fun id => ?_
    have posted : Posted service.collection.registry flow := ⟨body, document, read, decoded, valid⟩
    exact .bind (closed.updating fuel name flow id service before posted) fun _ => .pure _

theorem deleteFlow (name : String) : Preserves holds (deleteFlow fuel name) := by
  refine .service_bind fun service before => ?_
  refine .bind (closed.deleting fuel name service before) fun removed => ?_
  cases removed with
  | false => exact .refuse _
  | true => exact .pure _

theorem handleRoute (request : Incoming) (route : Route) :
    Preserves holds (handleRoute fuel request route) := by
  cases route with
  | flow name =>
    refine .ite (preserves_segment_bind closed.calm.getFlow) (.ite ?_ (.ite ?_ (.ite ?_
      (.refuse _))))
    · exact preserves_segment_bind fun text => .demand_bind fun body _ =>
        closed.createFlow text body
    · exact preserves_segment_bind fun text => closed.saveFlow text request
    · exact preserves_segment_bind closed.deleteFlow
  | health | runs | cancelRun | flows | runFlow => exact closed.calm.handleRoute request nofun

theorem handle {service : Service} (before : holds service) (fuel : Nat) (request : Incoming) :
    holds (service.handle fuel request).2 := by
  have any (request : Incoming) : holds (service.handleAny fuel request).2 := by
    unfold Service.handleAny
    split
    · exact before
    · rename_i route found
      have kept : holds ((Api.handleRoute fuel request route).on service).2 :=
        closed.handleRoute request route service before
      unfold on at kept
      split
      · rename_i answer left handled
        rwa [handled] at kept
      · rename_i status left handled
        rwa [handled] at kept
  unfold Service.handle
  split
  · exact any _
  · exact any request

theorem afterAll (happenings : List Happening) {service : Service} (before : holds service) :
    holds (service.afterAll happenings) := by
  induction happenings generalizing service with
  | nil => exact before
  | cons happening later ih =>
    apply ih
    cases happening with
    | request fuel request => exact closed.handle before fuel request
    | sleep fuel duration => exact closed.sleeping service fuel duration before
    | reading fuel id => exact closed.reading service fuel id before

end Closed

end Scenario.Api
