import Scenario.Proofs.Api.Happening
import Scenario.Proofs.Collection.Map
import Scenario.Proofs.Flow.Reread
import Scenario.Proofs.Graph.Runnable
import Scenario.Proofs.Run.Job
/-!
What a service keeps in its collection.

Whatever is asked of a service whose collection was empty at first, each of its flow files is a
flow that was not written yet or the text of one that can be run. So every flow that is listed can
be had, and is rejected when it is run exactly if it was not written yet.
-/
namespace Scenario

open Json (Value)

/-- A flow that may be saved: it was not written yet, or it can be run and is loaded again. -/
structure Flow.Sound (loaded : Option Flow) : Prop where
  storable : ∀ flow ∈ loaded, flow.Storable
  fits : (document loaded).Fits (fun _ => True) Json.Parser.nestingLimit
  runnable : ∀ flow ∈ loaded, flow.Runnable

namespace Flow.Sound

variable {loaded : Option Flow}

theorem none : Sound none :=
  ⟨nofun, Value.fits_object_iff.mpr ⟨.nil, nofun⟩, nofun⟩

theorem of_decode {text : String} {document : Value} {flow : Flow} {graph : Graph}
    (parsed : Json.parse text = .ok document)
    (decoded : Registry.standard.decode document = .ok (some flow))
    (built : Graph.build flow = .ok graph) : Sound (some flow) := by
  obtain ⟨ordered, shallow⟩ := Json.ordered_of_parse parsed
  have fits : document.Fits (fun _ => True) (122 + 5) := ⟨ordered, shallow, fun _ _ => trivial⟩
  constructor
  · rintro flow ⟨⟩
    exact storable_of_decode decoded
  · exact Flow.fits_document decoded fits
  · rintro flow ⟨⟩
    exact ((Graph.build_eq_ok_iff flow graph).mp built).1

theorem read (sound : Sound loaded) :
    Registry.standard.read (savedText loaded) = .ok (loaded.map Flow.reread) :=
  read_savedText sound.storable sound.fits.ordered sound.fits.shallow

theorem savedText_eq_empty_iff (sound : Sound loaded) :
    savedText loaded = "\x7b\x7d" ↔ loaded = .none := by
  have empty : savedText .none = "\x7b\x7d" := rfl
  constructor
  · intro same
    have read := sound.read
    rw [same, ← empty, none.read] at read
    simpa using read
  · rintro rfl
    exact empty

end Flow.Sound

/-- The job has failed without having come to a node, and its flow is to blame. -/
def Job.FailsAtOnce (job : Job) (id : RunId) : Prop :=
  ∃ result error, job.result? id = some result ∧ result.outcome = .failed ∧
    result.lastNode = none ∧ result.error = some error ∧
    ((∃ message, error = .graph message) ∨ ∃ message, error = .document message)

namespace Api

namespace Service

/-- The service works on a collection in which all flows are sound. -/
structure Sound (collection : Collection) (service : Service) : Prop where
  collection_eq : service.collection = collection
  stores : ∃ flows, collection.Stores Flow.Sound service.disk flows

end Service

open Handling

section Keeping

variable {collection : Collection}

theorem Service.Sound.of_eq {service left : Service} (sound : service.Sound collection)
    (same : left.collection = service.collection) (disk : left.disk = service.disk) :
    left.Sound collection := by
  constructor
  · rw [same]
    exact sound.collection_eq
  · rw [disk]
    exact sound.stores

theorem preserves_onDisk {α : Type} {task : FileTask α}
    (keeps : ∀ disk flows, collection.Stores Flow.Sound disk flows →
      ∃ kept, collection.Stores Flow.Sound (task.run disk).2 kept) (fuel : Nat) :
    Preserves (Service.Sound collection) (onDisk fuel task) := by
  intro service sound
  obtain ⟨flows, stores⟩ := sound.stores
  exact ⟨sound.collection_eq, keeps service.disk flows stores⟩

theorem build_of_validate {flow : Flow} (valid : validate flow = .ok ()) :
    ∃ graph, Graph.build flow = .ok graph := by
  unfold validate at valid
  split at valid
  · rename_i graph built
    exact ⟨graph, built⟩
  · cases valid

theorem Posted.sound {flow : Flow} (posted : Posted .standard flow) : Flow.Sound (some flow) := by
  obtain ⟨text, document, read, decoded, valid⟩ := posted
  obtain ⟨graph, built⟩ := build_of_validate valid
  exact .of_decode (Success.mapError_iff.mp read) (Success.mapError_iff.mp decoded) built

theorem closed_sound (standard : collection.registry = .standard) :
    Closed (Service.Sound collection) := by
  constructor
  · exact fun fuel task looks service sound => sound.of_eq rfl (looks.run service.disk)
  · intro fuel name flow service sound posted
    rw [sound.collection_eq, standard] at posted
    have fine : Flow.Sound flow := by
      cases flow with
      | none => exact .none
      | some flow => exact (posted flow rfl).sound
    rw [sound.collection_eq]
    exact preserves_onDisk (fun _ _ stores => stores.after_create standard fine) fuel
  · intro fuel name flow id service sound posted
    rw [sound.collection_eq, standard] at posted
    rw [sound.collection_eq]
    exact preserves_onDisk (fun _ _ stores => stores.after_update standard posted.sound id) fuel
  · intro fuel name service sound
    rw [sound.collection_eq]
    exact preserves_onDisk (fun _ _ stores => stores.after_delete) fuel
  · exact fun _ sound => sound.of_eq rfl rfl
  · exact fun _ _ _ sound => sound.of_eq rfl rfl
  · exact fun _ _ sound => sound.of_eq rfl rfl
  · exact fun _ _ _ sound => sound.of_eq rfl rfl
  · exact fun _ _ _ sound => sound.of_eq rfl rfl

end Keeping

section Serving

variable {collection : Collection} {service : Service} {fuel : Nat}

/-- A request to an address whose variable segment stands for a name. -/
structure Incoming.Asks (request : Incoming) (method : String) (route : List Char → Route)
    (name : String) : Prop where
  method_eq : request.method = method
  named : ∃ written, Route.ofTarget? request.target = some (route written) ∧
    decodeSegment? written = some name

def Answer.ofResult : Except Status Answer → Answer
  | .ok answer => answer
  | .error status => .ofStatus status

theorem handle_of_route {request : Incoming} {route : Route} {carrier : Carrier}
    (plain : request.method ≠ "HEAD") (found : Route.ofTarget? request.target = some route) :
    service.handle fuel request carrier =
      (.ofResult ((handleRoute fuel request route carrier).on service).1,
        ((handleRoute fuel request route carrier).on service).2) := by
  rw [Service.handle, if_neg plain, Service.handleAny, found]
  unfold on
  dsimp only
  rcases (handleRoute fuel request route carrier).run.run service with ⟨result, left⟩
  cases result <;> rfl

theorem segment_eq {written : List Char} {name : String}
    (decoded : decodeSegment? written = some name) : segment written = pure name := by
  rw [segment, decoded]

theorem get_of_asks {request : Incoming} {name : String} (asks : request.Asks "GET" .flow name) :
    service.handle fuel request =
      (.ofResult ((getFlow fuel name).on service).1, ((getFlow fuel name).on service).2) := by
  obtain ⟨method, written, found, decoded⟩ := asks
  rw [handle_of_route (by simp [method]) found, handleRoute, if_pos method, segment_eq decoded,
    pure_bind]

theorem wholeBody_eq_ok_iff {request : Incoming} {body : String} :
    wholeBody request = .ok body ↔
      request.body.utf8ByteSize ≤ bodyLimit ∧ request.body = body := by
  unfold wholeBody
  split <;> simp [*]

theorem wholeBody_of_large {request : Incoming} (large : bodyLimit < request.body.utf8ByteSize) :
    wholeBody request = .error .contentTooLarge :=
  if_neg (Nat.not_le.mpr large)

theorem create_of_asks {request : Incoming} {name : String} {carrier : Carrier}
    (asks : request.Asks "POST" .flow name) (small : request.body.utf8ByteSize ≤ bodyLimit) :
    service.handle fuel request carrier =
      (.ofResult ((createFlow fuel name request.body carrier).on service).1,
        ((createFlow fuel name request.body carrier).on service).2) := by
  obtain ⟨method, written, found, decoded⟩ := asks
  rw [handle_of_route (by simp [method]) found, handleRoute, if_neg (by simp [method]),
    if_pos method, segment_eq decoded, pure_bind, wholeBody_eq_ok_iff.mpr ⟨small, rfl⟩]
  rfl

theorem run_of_asks {request : Incoming} {name : String}
    (asks : request.Asks "POST" .runFlow name) (small : request.body.utf8ByteSize ≤ bodyLimit) :
    service.handle fuel request =
      (.ofResult ((runFlow fuel name request.body).on service).1,
        ((runFlow fuel name request.body).on service).2) := by
  obtain ⟨method, written, found, decoded⟩ := asks
  rw [handle_of_route (by simp [method]) found, handleRoute, if_pos method, segment_eq decoded,
    pure_bind, wholeBody_eq_ok_iff.mpr ⟨small, rfl⟩]
  rfl

/-- Settings that are too large are not looked at. -/
theorem run_of_large {request : Incoming} {name : String}
    (asks : request.Asks "POST" .runFlow name) (large : bodyLimit < request.body.utf8ByteSize) :
    service.handle fuel request = (.ofStatus .contentTooLarge, service) := by
  obtain ⟨method, written, found, decoded⟩ := asks
  rw [handle_of_route (by simp [method]) found, handleRoute, if_pos method, segment_eq decoded,
    pure_bind, wholeBody_of_large large]
  rfl

section Stored

variable {flows : Dict (Option Flow)} (stores : collection.Stores Flow.Sound service.disk flows)

include stores

theorem listed_of_stores (same : service.collection = collection) :
    ((listFlows fuel).on service).1 = .ok (.ofContent .ok (.json (.ofFields
      [("flows", .array (flows.keys.map .string))]))) := by
  have listed := Collection.list_eq stores.contains
  rw [Dict.keys_map] at listed
  subst same
  simp [listFlows, on_bind, listed, Except.mapError, Except.map]

variable {name : String} {loaded : Option Flow} (bound : flows.get? name = some loaded)

include bound

theorem read_of_stores (standard : collection.registry = .standard) :
    (collection.read name).run service.disk = (.ok (loaded.map Flow.reread), service.disk) := by
  have saved : (flows.map Flow.savedText).get? name = some (Flow.savedText loaded) := by
    rw [Collection.get?_savedTexts, bound]
    rfl
  rw [Collection.read_present stores.contains saved, standard, (stores.good name loaded bound).read]

theorem got_of_stores (same : service.collection = collection)
    (standard : collection.registry = .standard) :
    ((getFlow fuel name).on service).1 =
      .ok (.ofContent .ok (.json (Flow.document (loaded.map Flow.reread)))) := by
  have read := read_of_stores stores bound standard
  subst same
  simp [getFlow, on_bind, read, standard, encode_eq_document, Except.mapError, Except.map]

end Stored

/-- A flow that can be run is never rejected, and one that was not written yet is at once. -/
theorem failsAtOnce_start_iff {loaded : Option Flow} (sound : Flow.Sound loaded)
    (registry : Registry) (tolerance : UInt32) (epoch : Nat) (options : RunOptions) (now : Nat)
    (events : List Job.Event) (id : RunId) :
    ((Job.start registry tolerance epoch options now
      (.ok (loaded.map Flow.reread))).afterAll events).FailsAtOnce id ↔ loaded = none := by
  cases loaded with
  | none =>
    refine iff_of_true ?_ rfl
    have start : Job.start registry tolerance epoch options now (.ok none) =
      .rejected (.ofFlowError (.graph .empty)) (.ofMillis (epoch + now)) := rfl
    rw [Option.map_none, start, (Job.afterAll_rejected _ _ events).1]
    exact ⟨_, _, rfl, rfl, rfl, rfl, .inl ⟨_, rfl⟩⟩
  | some flow =>
    obtain ⟨graph, built⟩ := Graph.build_of_runnable (sound.runnable flow rfl).mapDoubles
    have start : Job.start registry tolerance epoch options now (.ok (some flow.reread)) =
        .accepted (.start graph registry tolerance epoch options.vars options.timeout now) := by
      rw [Job.start, graphToRun, Flow.reread, built]
      rfl
    obtain ⟨after, kept⟩ := Job.exists_afterAll_accepted
      (.start graph registry tolerance epoch options.vars options.timeout now) events
    refine iff_of_false ?_ (Option.some_ne_none flow)
    rw [Option.map_some, start, kept]
    rintro ⟨result, error, ended, -, nowhere, -⟩
    obtain ⟨ending, -, rfl⟩ := Option.map_eq_some_iff.mp ended
    cases nowhere

/-- The options of a run on the flows and environments that are there now. -/
def Service.options (service : Service) (settings : RunSettings) : Except Status RunOptions :=
  let options (environment : Variables) : RunOptions :=
    ⟨settings.timeout.getD service.timeout, environment.override settings.vars.entries⟩
  match settings.environment with
  | none => .ok (options {})
  | some name =>
    (((Collection.environment service.collection.root name).run service.disk).1.mapError
      Status.ofError).map options

/-- The runner settles as often as the disk is looked at. -/
theorem runOptions_on (fuel : Nat) (settings : RunSettings) (service : Service) :
    ∃ times, (runOptions fuel settings).on service = (service.options settings,
      { service with runner := (Runner.settle fuel)^[times] service.runner }) := by
  unfold runOptions Service.options
  cases settings.environment with
  | none => exact ⟨0, rfl⟩
  | some name =>
    refine ⟨1, ?_⟩
    have looks := (Collection.looks_environment service.collection.root name).run service.disk
    simp [on_bind, looks]

/-- A saved flow that is found is run with the options that its settings give. -/
theorem runFlow_on (fuel : Nat) {name body : String} {settings : RunSettings} {loaded : Option Flow}
    (read : readSettings body = .ok settings)
    (found : (service.collection.read name).run service.disk = (.ok loaded, service.disk)) :
    ∃ times, (runFlow fuel name body).on service =
      match service.options settings with
      | .ok options => (submit options (.ok loaded)).on
          { service with runner := (Runner.settle fuel)^[times] service.runner }
      | .error status => (.error status,
          { service with runner := (Runner.settle fuel)^[times] service.runner }) := by
  obtain ⟨times, ran⟩ : ∃ times,
      (runOptions fuel settings).on { service with runner := service.runner.settle fuel } =
        (service.options settings,
          { service with runner := (Runner.settle fuel)^[times] (service.runner.settle fuel) }) :=
    runOptions_on fuel settings _
  refine ⟨times + 1, ?_⟩
  simp only [runFlow, read, on_bind, on_demand, on_service, on_attempt, onDisk_eq, found, ran]
  cases service.options settings <;> rfl

theorem runs_of_stores (fuel : Nat) {flows : Dict (Option Flow)}
    (stores : collection.Stores Flow.Sound service.disk flows)
    (standard : collection.registry = .standard) (same : service.collection = collection)
    {name : String} {loaded : Option Flow} (bound : flows.get? name = some loaded)
    (body : String) :
    ((∃ settings options, readSettings body = .ok settings ∧
        service.options settings = .ok options) →
      ∃ id, ((runFlow fuel name body).on service).1 = .ok (.ofContent .ok (.stream id))) ∧
    ∀ answer id, ((runFlow fuel name body).on service).1 = .ok answer →
      answer.content = .stream id → ∃ job,
        ((runFlow fuel name body).on service).2.runner.tasks.getLast? = some (id, ⟨id, job⟩) ∧
          ∀ events, (job.afterAll events).FailsAtOnce id ↔ loaded = none := by
  have found := read_of_stores stores bound standard
  rw [← same] at found
  constructor
  · rintro ⟨settings, options, read, provided⟩
    obtain ⟨times, ran⟩ := runFlow_on fuel read found
    rw [ran, provided]
    exact ⟨_, rfl⟩
  · intro answer id answered streamed
    cases read : readSettings body with
    | error status =>
      simp [runFlow, read, on_bind] at answered
    | ok settings =>
      obtain ⟨times, ran⟩ := runFlow_on fuel read found
      rw [ran] at answered ⊢
      cases provided : service.options settings with
      | error status =>
        rw [provided] at answered
        cases answered
      | ok options =>
        rw [provided] at answered
        cases answered
        cases streamed
        refine ⟨_, List.getLast?_concat .., fun events => ?_⟩
        exact failsAtOnce_start_iff (stores.good name loaded bound) ..

section Stored

variable {flows : Dict (Option Flow)} (stores : collection.Stores Flow.Sound service.disk flows)
  {name : String}

include stores

theorem text_of_stores (standard : collection.registry = .standard) (solid : name ≠ "")
    {file : File} (stands : service.disk.get? (collection.place name) = some file) :
    ∃ text, file = .file (bytesOf text.toList) ∧ (text = "\x7b\x7d" ∨ ∃ flow graph,
      collection.registry.write (some flow) = .ok text ∧ Graph.build flow = .ok graph) := by
  rw [stores.get?_place name solid, Option.map_eq_some_iff] at stands
  obtain ⟨loaded, bound, rfl⟩ := stands
  refine ⟨Flow.savedText loaded, rfl, ?_⟩
  have sound := stores.good name loaded bound
  cases loaded with
  | none => exact .inl rfl
  | some flow =>
    obtain ⟨graph, built⟩ := Graph.build_of_runnable (sound.runnable flow rfl)
    exact .inr ⟨flow, graph, standard ▸ Flow.write_savedText (some flow), built⟩

theorem mem_keys_iff_of_stores :
    name ∈ flows.keys ↔ name ≠ "" ∧ (service.disk.get? (collection.place name)).isSome := by
  rw [Dict.mem_keys_iff]
  constructor
  · intro present
    have solid := ne_empty_of_isName (stores.valid present)
    exact ⟨solid, by rwa [stores.get?_place name solid, Option.isSome_map]⟩
  · rintro ⟨solid, stands⟩
    rwa [stores.get?_place name solid, Option.isSome_map] at stands

/-- A request to run a flow is answered with a stream if its settings are not too large and give
options, and each stream that answers one is that of a job that fails at once exactly if the flow
was not written yet. -/
theorem handle_run_of_stores (fuel : Nat) (standard : collection.registry = .standard)
    (same : service.collection = collection) {loaded : Option Flow}
    (bound : flows.get? name = some loaded) {request : Incoming}
    (asks : request.Asks "POST" .runFlow name) :
    (request.body.utf8ByteSize ≤ bodyLimit →
      (∃ settings options, readSettings request.body = .ok settings ∧
        service.options settings = .ok options) →
      ∃ id, (service.handle fuel request).1 = .ofContent .ok (.stream id)) ∧
    ∀ id, (service.handle fuel request).1.content = .stream id → ∃ job,
      (service.handle fuel request).2.runner.tasks.getLast? = some (id, ⟨id, job⟩) ∧
      ∀ events, (job.afterAll events).FailsAtOnce id ↔ loaded = none := by
  obtain ⟨starts, rejects⟩ := runs_of_stores fuel stores standard same bound request.body
  by_cases small : request.body.utf8ByteSize ≤ bodyLimit
  case neg =>
    rw [run_of_large asks (Nat.not_le.mp small)]
    exact ⟨fun fits => absurd fits small, nofun⟩
  rw [run_of_asks asks small]
  constructor
  · intro _ provided
    obtain ⟨id, started⟩ := starts provided
    exact ⟨id, by rw [started]; rfl⟩
  · intro id streamed
    cases answered : ((runFlow fuel name request.body).on service).1 with
    | error status =>
      rw [answered] at streamed
      cases streamed
    | ok answer =>
      rw [answered] at streamed
      exact rejects answer id answered streamed

end Stored

/-- Whatever happens to a service whose collection was empty at first, each of its flow files is a
flow that was not written yet or the text of a flow that makes a graph. The listing names these
files; each flow that it names can be had, and can be run, and its run fails without having come to
a node exactly if it was not written yet. -/
theorem Service.afterAll_sound {collection : Collection} {disk : Disk}
    (standard : collection.registry = .standard) (vacant : collection.Vacant disk)
    (runner : Runner) (timeout : UInt64) (happenings : List Happening) :
    let service := (Service.start collection disk runner timeout).afterAll happenings
    (∀ name, name ≠ "" → ∀ file, service.disk.get? (collection.place name) = some file →
      ∃ text, file = .file (bytesOf text.toList) ∧ (text = "\x7b\x7d" ∨ ∃ flow graph,
        collection.registry.write (some flow) = .ok text ∧ Graph.build flow = .ok graph)) ∧
    ∃ names : List String,
      (∀ fuel request, request.method = "GET" → Route.ofTarget? request.target = some .flows →
        (service.handle fuel request).1 = .ofContent .ok (.json (.ofFields
          [("flows", .array (names.map .string))]))) ∧
      (∀ name, name ∈ names ↔
        name ≠ "" ∧ (service.disk.get? (collection.place name)).isSome) ∧
      ∀ name ∈ names, ∃ text,
        service.disk.get? (collection.place name) = some (.file (bytesOf text.toList)) ∧
        (∀ fuel request, request.Asks "GET" .flow name →
          (service.handle fuel request).1.status = .ok) ∧
        ∀ fuel request, request.Asks "POST" .runFlow name →
          (request.body.utf8ByteSize ≤ bodyLimit →
            (∃ settings options, readSettings request.body = .ok settings ∧
              service.options settings = .ok options) →
            ∃ id, (service.handle fuel request).1 = .ofContent .ok (.stream id)) ∧
          ∀ id, (service.handle fuel request).1.content = .stream id → ∃ job,
            (service.handle fuel request).2.runner.tasks.getLast? = some (id, ⟨id, job⟩) ∧
            ∀ events, (job.afterAll events).FailsAtOnce id ↔ text = "\x7b\x7d" := by
  intro service
  obtain ⟨same, flows, stores⟩ : service.Sound collection :=
    (closed_sound standard).afterAll happenings ⟨rfl, ∅, vacant.stores⟩
  refine ⟨fun name solid file => text_of_stores stores standard solid, flows.keys, ?_,
    fun name => mem_keys_iff_of_stores stores, ?_⟩
  · intro fuel request method route
    rw [handle_of_route (by simp [method]) route]
    simp only [handleRoute, method, if_true]
    rw [listed_of_stores stores same]
    rfl
  · intro name member
    obtain ⟨solid, -⟩ := (mem_keys_iff_of_stores stores).mp member
    obtain ⟨loaded, bound⟩ := Option.isSome_iff_exists.mp ((Dict.mem_keys_iff flows name).mp member)
    refine ⟨Flow.savedText loaded, ?_, ?_, ?_⟩
    · rw [stores.get?_place name solid, bound]
      rfl
    · intro fuel request asks
      rw [get_of_asks asks, got_of_stores stores bound same standard]
      rfl
    · intro fuel request asks
      rw [(stores.good name loaded bound).savedText_eq_empty_iff]
      exact handle_run_of_stores stores fuel standard same bound asks

def placing : Incoming := ⟨"POST", "/api/flows/smoke", none, ""⟩

def shelfService : Service := .start .shelf ∅ (.start .standard 0 0 .offline) 60000

theorem asks_smoke {request : Incoming} (target : request.target = "/api/flows/smoke") :
    request.Asks request.method .flow "smoke" :=
  ⟨rfl, "smoke".toList, target ▸ by decide, by decide +kernel⟩

theorem shelf_sound :
    Collection.shelf.registry = .standard ∧ Collection.shelf.Vacant ∅ ∧
      let service := shelfService.afterAll [.request 9 placing]
      (service.handle 9 ⟨"GET", "/api/flows/smoke", none, ""⟩).1.status = .ok ∧
      ∃ id job,
        (service.handle 9 ⟨"POST", "/api/flows/smoke/run", none, ""⟩).1 =
          .ofContent .ok (.stream id) ∧
        (service.handle 9 ⟨"POST", "/api/flows/smoke/run", none, ""⟩).2.runner.tasks.getLast? =
          some (id, ⟨id, job⟩) ∧ job.FailsAtOnce id := by
  refine ⟨rfl, Collection.vacant_shelf, ?_⟩
  intro service
  obtain ⟨left, ran, stored⟩ := Collection.create_new Collection.vacant_shelf.contains
    (by decide +kernel : isName "smoke" = true) (by decide +kernel) (Flow.write_savedText none) rfl
  have disk : service.disk = left := by
    have blank : readOptionalJson "" = .ok none := by rfl
    have asks : placing.Asks "POST" .flow "smoke" :=
      ⟨rfl, "smoke".toList, by decide, by decide +kernel⟩
    change (shelfService.handle 9 placing).2.disk = left
    rw [create_of_asks asks (by decide)]
    have start : shelfService.collection = .shelf ∧ shelfService.disk = ∅ := ⟨rfl, rfl⟩
    simp [createFlow, on_bind, placing, blank, start, ran, Except.mapError]
  obtain ⟨-, names, -, files, served⟩ :=
    Service.afterAll_sound rfl Collection.vacant_shelf (.start .standard 0 0 .offline) 60000
      [.request 9 placing]
  have listed : "smoke" ∈ names := by
    rw [files]
    refine ⟨by decide, ?_⟩
    change (service.disk.get? _).isSome
    rw [disk, stored.files "smoke" (by decide)]
    rfl
  obtain ⟨text, stands, got, runs⟩ := served "smoke" listed
  have unwritten : text = "\x7b\x7d" := by
    change service.disk.get? _ = _ at stands
    rw [disk, stored.files "smoke" (by decide)] at stands
    exact (bytesOf_inj (File.file.inj (Option.some.inj stands))).symm
  obtain ⟨starts, rejects⟩ := runs 9 ⟨"POST", "/api/flows/smoke/run", none, ""⟩
    ⟨rfl, "smoke".toList, by decide, by decide +kernel⟩
  obtain ⟨id, started⟩ := starts (by decide) ⟨.none, _, by rfl, rfl⟩
  obtain ⟨job, last, fails⟩ := rejects id (by rw [started]; rfl)
  exact ⟨got 9 _ ⟨rfl, "smoke".toList, by decide, by decide +kernel⟩, id, job, started, last,
    (fails []).mpr unwritten⟩

end Serving

end Api

end Scenario
