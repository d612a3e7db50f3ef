import Scenario.Proofs.Api.SavedRuns
import Scenario.Proofs.Collection.Faults
/-!
Requests that are refused.

A request that is answered with an error leaves all files as they were, whatever is asked for and
however the request was handled before it failed. Where calls may break off there is one exception:
the file of a flow that was to be created may have been opened by then.
-/
namespace Scenario.Api

open Handling

/-- Each call of a task is carried out, or breaks off. -/
def Carrier.Faithful (carrier : Carrier) : Prop :=
  ∀ {α : Type} (task : FileTask α) (disk : Disk),
    task.Ends disk (carrier.carry task disk).1 (carrier.carry task disk).2

theorem Carrier.faithful_steady : Carrier.steady.Faithful := FileTask.ends_run

/-- The request fails, or it is answered with an error. -/
def Refused : Except Status Answer → Prop
  | .ok answer => 400 ≤ answer.status.code
  | .error _ => True

/-- No file stands in the place of the draft that is written next. -/
def Service.Undrafted (service : Service) : Prop :=
  ∀ name bytes, service.disk.get?
    (Collection.draft (service.collection.place name) (.ofNat service.issued)) ≠ some (.file bytes)

/-- If the request is refused, the files of the service are as they were, or something is spoiled. -/
def Spares (service : Service) (spoiled : Disk → Prop) (handling : Handling Answer) : Prop :=
  Refused (handling.on service).1 →
    service.disk.Spares service.collection.root (handling.on service).2.disk ∨
      spoiled (handling.on service).2.disk

namespace Spares

variable {α : Type} {service : Service} {spoiled : Disk → Prop} {handling other : Handling Answer}

theorem of_still (still : Preserves (fun left => left.disk = service.disk) handling) :
    Spares service spoiled handling := by
  intro _
  rw [still service rfl]
  exact .inl (.refl _ service.disk)

theorem refuse (status : Status) : Spares service spoiled (Handling.refuse status) :=
  fun _ => .inl (.refl _ _)

theorem ite {c : Prop} [Decidable c] (yes : c → Spares service spoiled handling)
    (no : ¬ c → Spares service spoiled other) :
    Spares service spoiled (if c then handling else other) := by
  split
  · exact yes ‹c›
  · exact no ‹¬ c›

theorem demand_bind {result : Except Status α} {next : α → Handling Answer}
    (rest : ∀ a, Spares service spoiled (next a)) :
    Spares service spoiled (demand result >>= next) := by
  cases result with
  | error status => exact refuse status
  | ok a => exact rest a

theorem service_bind {next : Service → Handling Answer}
    (rest : Spares service spoiled (next service)) :
    Spares service spoiled (Handling.service >>= next) := rest

theorem newId_bind {next : RunId → Handling Answer}
    (rest : Spares service.newId.2 spoiled (next service.newId.1)) :
    Spares service spoiled (newId >>= next) := rest

theorem segment_bind {written : List Char} {next : String → Handling Answer}
    (rest : ∀ text, decodeSegment? written = some text → Spares service spoiled (next text)) :
    Spares service spoiled (segment written >>= next) := by
  unfold segment
  split
  · exact rest _ ‹_›
  · exact refuse _

end Spares

section Handlers

variable {carrier : Carrier} {service : Service} {fuel : Nat}

theorem not_refused {status : Status} (fine : status.code < 400) (content : Content) :
    ¬ Refused (.ok (.ofContent status content)) :=
  Nat.not_le.mpr fine

/-- The task has failed with the files as they were or spoiled, or what follows does not refuse the
request. -/
theorem spares_onDisk {α : Type} {spoiled : Disk → Prop} {task : FileTask α}
    {next : α → Handling Answer}
    (fails : ∀ e left, carrier.carry task service.disk = (.error e, left) →
      service.disk.Spares service.collection.root left ∨ spoiled left)
    (done : ∀ a after, ¬ Refused ((next a).on after).1) :
    Spares service spoiled (onDisk fuel task carrier >>= next) := by
  intro refused
  rw [on_bind, on_onDisk, onDisk_carrier] at refused ⊢
  rcases ran : carrier.carry task service.disk with ⟨result, left⟩
  rw [ran] at refused
  cases result with
  | error e => exact fails e left ran
  | ok a => exact absurd refused (done a _)

theorem spares_createFlow {spoiled : Disk → Prop} {name : String}
    (fails : ∀ flow e left,
      carrier.carry (service.collection.create name flow) service.disk = (.error e, left) →
        service.disk.Spares service.collection.root left ∨ spoiled left) (body : String) :
    Spares service spoiled (createFlow fuel name body carrier) := by
  have creates (flow : Option Flow) : Spares service spoiled do
      let _ ← onDisk fuel (service.collection.create name flow) carrier
      return .ofContent .created (.json (flowMessage name "created successfully")) :=
    spares_onDisk (fails flow) fun _ _ => not_refused (by decide) _
  refine .service_bind (.demand_bind fun document => ?_)
  cases document with
  | none => exact creates none
  | some document =>
    refine .demand_bind fun flow => ?_
    cases flow with
    | none => exact creates none
    | some flow => exact .demand_bind fun _ => creates (some flow)

section Faithful

variable {spoiled : Disk → Prop} (faithful : carrier.Faithful)

include faithful

theorem spares_saveFlow (undrafted : service.Undrafted) (name : String) (request : Incoming) :
    Spares service spoiled (saveFlow fuel name request carrier) := by
  refine .demand_bind fun body => .demand_bind fun document => ?_
  refine .service_bind (.demand_bind fun flow => ?_)
  cases flow with
  | none => exact .refuse _
  | some flow =>
    refine .demand_bind fun _ => .newId_bind ?_
    refine spares_onDisk (fun e left ran => .inl ?_) fun _ _ => not_refused (by decide) _
    let task := service.collection.update name flow service.newId.1
    have ends := faithful task service.disk
    change carrier.carry task service.disk = _ at ran
    rw [ran] at ends
    exact Collection.spares_of_update (undrafted name) ends

theorem spares_deleteFlow (name : String) :
    Spares service spoiled (deleteFlow fuel name carrier) := by
  refine .service_bind fun refused => .inl ?_
  have ends := faithful (service.collection.delete name) service.disk
  rw [on_bind, on_onDisk, onDisk_carrier] at refused ⊢
  rcases ran : carrier.carry (service.collection.delete name) service.disk with ⟨result, left⟩
  rw [ran] at refused ends
  rcases Collection.delete_cases ends with rfl | rfl
  · exact absurd refused (not_refused (by decide) _)
  · cases result with
    | error e => exact .refl _ _
    | ok removed => cases removed <;> exact .refl _ _

theorem calm_disk (disk : Disk) : Calm (fun left => left.disk = disk) carrier where
  looking _ _ looks service same := (looks.ends (faithful _ service.disk)).trans same
  submitting _ _ _ same := same
  cancelling _ _ same := same

/-- Only what fails to be created may leave something spoiled. -/
theorem spares_handleRoute (undrafted : service.Undrafted) {spoiled : String → Disk → Prop}
    (fails : ∀ name flow e left,
      carrier.carry (service.collection.create name flow) service.disk = (.error e, left) →
        service.disk.Spares service.collection.root left ∨ spoiled name left)
    (request : Incoming) (route : Route) :
    Spares service (fun left => ∃ written name, route = .flow written ∧ request.method = "POST" ∧
      decodeSegment? written = some name ∧ spoiled name left)
        (handleRoute fuel request route carrier) := by
  have calm := calm_disk faithful service.disk
  cases route with
  | flow written =>
    refine .ite (fun _ => .segment_bind fun text _ => .of_still (calm.getFlow text)) fun _ =>
      .ite (fun posts => .segment_bind fun text named => .demand_bind fun body => ?_) fun _ =>
      .ite (fun _ => .segment_bind fun text _ => spares_saveFlow faithful undrafted text request)
        fun _ => .ite (fun _ => .segment_bind fun text _ => spares_deleteFlow faithful text)
          fun _ => .refuse _
    refine spares_createFlow (fun flow e left ran => ?_) body
    refine (fails text flow e left ran).imp_right fun spoils => ?_
    exact ⟨written, text, rfl, posts, named, spoils⟩
  | health | runs | cancelRun | flows | runFlow =>
    exact .of_still (calm.handleRoute request nofun)

theorem spares_handleAny (undrafted : service.Undrafted) {spoiled : String → Disk → Prop}
    (fails : ∀ name flow e left,
      carrier.carry (service.collection.create name flow) service.disk = (.error e, left) →
        service.disk.Spares service.collection.root left ∨ spoiled name left)
    (request : Incoming)
    (refused : 400 ≤ (service.handleAny fuel request carrier).1.status.code) :
    service.disk.Spares service.collection.root (service.handleAny fuel request carrier).2.disk ∨
      ∃ name, request.Asks "POST" .flow name ∧
        spoiled name (service.handleAny fuel request carrier).2.disk := by
  unfold Service.handleAny at refused ⊢
  split
  · exact .inl (.refl _ _)
  · rename_i route found
    have spares : Spares service _ (handleRoute fuel request route carrier) :=
      spares_handleRoute faithful undrafted fails request route
    unfold Spares on at spares
    rw [found] at refused
    dsimp only at refused
    have asks {left : Disk} (spoils : ∃ written name, route = .flow written ∧
        request.method = "POST" ∧ decodeSegment? written = some name ∧ spoiled name left) :
        ∃ name, request.Asks "POST" .flow name ∧ spoiled name left := by
      obtain ⟨written, name, rfl, posts, named, spoils⟩ := spoils
      exact ⟨name, ⟨posts, written, found, named⟩, spoils⟩
    split
    · rename_i answer left handled
      rw [handled] at spares refused
      exact (spares refused).imp_right asks
    · rename_i status left handled
      rw [handled] at spares
      exact (spares trivial).imp_right asks

/-- Whatever is asked for, an answer with an error leaves all files as they were, unless a flow was
to be created and something of it is left. -/
theorem spares_handle (undrafted : service.Undrafted) {spoiled : String → Disk → Prop}
    (fails : ∀ name flow e left,
      carrier.carry (service.collection.create name flow) service.disk = (.error e, left) →
        service.disk.Spares service.collection.root left ∨ spoiled name left)
    (request : Incoming)
    (refused : 400 ≤ (service.handle fuel request carrier).1.status.code) :
    service.disk.Spares service.collection.root (service.handle fuel request carrier).2.disk ∨
      ∃ name, request.Asks "POST" .flow name ∧
        spoiled name (service.handle fuel request carrier).2.disk := by
  unfold Service.handle at refused ⊢
  split at refused
  · rename_i head
    rw [if_pos head]
    rcases spares_handleAny faithful undrafted fails _ refused with spares | ⟨name, asks, -⟩
    · exact .inl spares
    · have gets : "GET" = "POST" := asks.method_eq
      exact absurd gets (by decide)
  · rename_i plain
    rw [if_neg plain]
    exact spares_handleAny faithful undrafted fails request refused

end Faithful

end Handlers

/-- Whichever call fails, what is not saved leaves the files as they were, and so does what is not
created, unless its file was opened before the failure; and so does every request that is answered
with an error, unless it was to create a flow and a call broke off when the file was open. At most
the directories of the collection were made. -/
theorem failures_spare_files (collection : Collection) :
    (∀ (name : String) (flow : Flow) (id : RunId) (disk left : Disk) (e : FlowError),
      (∀ bytes, disk.get? (Collection.draft (collection.place name) id) ≠ some (.file bytes)) →
        (collection.update name flow id).Ends disk (.error e) left →
          disk.Spares collection.root left) ∧
    (∀ (name : String) (flow : Option Flow) (disk left : Disk) (e : FlowError),
      (collection.create name flow).Ends disk (.error e) left →
        (disk.Spares collection.root left ↔ ¬ collection.Residue name flow disk left)) ∧
    (∀ (service : Service) (fuel : Nat) (request : Incoming), service.collection = collection →
      service.Undrafted → 400 ≤ (service.handle fuel request).1.status.code →
        service.disk.Spares collection.root (service.handle fuel request).2.disk) ∧
    ∀ (carrier : Carrier) (service : Service) (fuel : Nat) (request : Incoming),
      carrier.Faithful → service.collection = collection → service.Undrafted →
        400 ≤ (service.handle fuel request carrier).1.status.code →
          service.disk.Spares collection.root (service.handle fuel request carrier).2.disk ∨
            ∃ name flow, request.Asks "POST" .flow name ∧
              collection.Residue name flow service.disk
                (service.handle fuel request carrier).2.disk := by
  refine ⟨?_, ?_, ?_, ?_⟩
  · exact fun _ _ _ _ _ _ fresh ends => Collection.spares_of_update fresh ends
  · intro name flow disk left e ends
    constructor
    · exact fun spares residue => residue.not_spares spares
    · exact (Collection.spares_of_create ends).resolve_right
  · rintro service fuel request rfl undrafted refused
    have fails (name : String) (flow : Option Flow) (e : FlowError) (left : Disk)
        (ran : Carrier.steady.carry (service.collection.create name flow) service.disk =
          (.error e, left)) : service.disk.Spares service.collection.root left ∨ False :=
      .inl (Collection.spares_of_create_run ran)
    exact (spares_handle Carrier.faithful_steady undrafted fails request refused).resolve_right
      fun ⟨_, _, never⟩ => never
  · rintro carrier service fuel request faithful rfl undrafted refused
    have fails (name : String) (flow : Option Flow) (e : FlowError) (left : Disk)
        (ran : carrier.carry (service.collection.create name flow) service.disk = (.error e, left)) :
        service.disk.Spares service.collection.root left ∨
          ∃ flow, service.collection.Residue name flow service.disk left := by
      have ends := faithful (service.collection.create name flow) service.disk
      rw [ran] at ends
      exact (Collection.spares_of_create ends).imp_right fun residue => ⟨flow, residue⟩
    refine (spares_handle faithful undrafted fails request refused).imp_right ?_
    exact fun ⟨name, asks, flow, residue⟩ => ⟨name, flow, asks, residue⟩

section Shelf

/-- On a disk that has no room for contents a file that is filled stays empty, and its call fails. -/
def callFull {α : Type} (c : Call α) (disk : Disk) : Except DiskFault α × Disk :=
  match c with
  | .fill path _ => (.error .notText, disk.fill path [])
  | c => c.run disk

def runFull {α : Type} : Program α → Disk → α × Disk
  | .done result, disk => (result, disk)
  | .call c next, disk => runFull (next (callFull c disk).1) (callFull c disk).2

def fullCarrier : Carrier := ⟨fun {_} task => runFull (ExceptT.run task)⟩

theorem faithful_fullCarrier : fullCarrier.Faithful := by
  have ends {α : Type} (program : Program α) (disk : Disk) :
      program.Ends disk (runFull program disk).1 (runFull program disk).2 := by
    induction program generalizing disk with
    | done result => exact .done result disk
    | call c next ih =>
      cases c with
      | fill path bytes => exact .call (.inr ⟨⟨_, rfl⟩, [], List.nil_prefix, rfl⟩) (ih _ _)
      | makeDirectories | createNew | write | rename | remove | read | list =>
        exact .call (.inl rfl) (ih _ _)
  exact fun {_} task disk => ends (ExceptT.run task) disk

/-- Where a new flow has its place, its empty file is left there. -/
theorem create_on_full {collection : Collection} {disk : Disk} {texts : Dict String}
    (contains : collection.Contains disk texts) {name : String} (valid : isName name = true)
    (holds : disk.Holds (collection.place name)) (absent : texts.get? name = none)
    {flow : Option Flow} {text : String} (written : collection.registry.write flow = .ok text) :
    ∃ left, fullCarrier.carry (collection.create name flow) disk = (.error (.disk .notText), left) ∧
      left.get? (collection.place name) = some (.file []) := by
  obtain ⟨made, makes, limits, leads, contains⟩ := contains.made
  rw [Disk.Holds, ← limits] at holds
  have below : collection.place name ≠ [] := by simp [Collection.place]
  have opens : made.createNew (collection.place name) =
      .ok (made.set (collection.place name) (.file [])) := by
    rw [Disk.createNew_eq_ok_iff, contains.get?_place valid, absent]
    exact ⟨Disk.reaches_child leads holds, rfl, rfl⟩
  refine ⟨(made.set (collection.place name) (.file [])).fill (collection.place name) [], ?_, ?_⟩
  · rw [Collection.create, Collection.flowPath_of_isName valid, written]
    change runFull (.call (.makeDirectories collection.root) fun answer => ExceptT.run (do
      FileTask.ofExcept (answer.mapError .disk)
      FileTask.perform (.createNew (collection.place name))
      FileTask.perform (.fill (collection.place name) (bytesOf text.toList))
      pure (collection.place name) : FileTask Path)) disk = _
    have first : callFull (.makeDirectories collection.root) disk = (.ok (), made) := makes
    have second : callFull (.createNew (collection.place name)) made =
        (.ok (), made.set (collection.place name) (.file [])) := by
      change Call.change made (made.createNew (collection.place name)) = _
      rw [opens]
      rfl
    rw [runFull, first]
    change runFull (.call (.createNew (collection.place name)) _) made = _
    rw [runFull, second]
    rfl
  · rw [Disk.fill, Disk.get?_set _ below, if_pos rfl, Disk.get?_set _ below, if_pos rfl]

/-- A request to create a flow finds no room for it, and its file is left behind. -/
theorem placing_on_full : ∃ left,
    shelfService.handle 9 placing fullCarrier = (.ofStatus .internalError,
      { shelfService with disk := left, runner := shelfService.runner.settle 9 }) ∧
    left.get? (Collection.shelf.place "smoke") = some (.file []) := by
  obtain ⟨left, carried, stands⟩ := create_on_full Collection.vacant_shelf.contains
    (by decide : isName "smoke" = true) (by decide) rfl (Flow.write_savedText none)
  have asks : placing.Asks "POST" .flow "smoke" := asks_smoke rfl
  have blank : readOptionalJson "" = .ok none := by rfl
  have start : shelfService.collection = .shelf ∧ shelfService.disk = ∅ := ⟨rfl, rfl⟩
  refine ⟨left, ?_, stands⟩
  rw [create_of_asks asks (by decide)]
  simp [createFlow, on_bind, onDisk_carrier, placing, blank, start, carried, Except.mapError]
  rfl

def savingNothing : Incoming := ⟨"PUT", "/api/flows/smoke", none, ""⟩

theorem smoke_failures_spare :
    (∃ e left, (Collection.shelf.update "smoke" Collection.pausing (.ofNat 0)).Ends ∅ (.error e)
      left ∧ (∅ : Disk).Spares Collection.shelf.root left) ∧
    (∃ e left, (Collection.shelf.create "smoke" none).Ends ∅ (.error e) left ∧
      ¬ (∅ : Disk).Spares Collection.shelf.root left ∧
        Collection.shelf.Residue "smoke" none ∅ left) ∧
    ((shelfService.handle 9 savingNothing).1.status = .unsupportedMediaType ∧
      (∅ : Disk).Spares Collection.shelf.root (shelfService.handle 9 savingNothing).2.disk) ∧
    (shelfService.handle 9 placing fullCarrier).1.status = .internalError ∧
      ∃ name flow, placing.Asks "POST" .flow name ∧
        Collection.shelf.Residue name flow ∅ (shelfService.handle 9 placing fullCarrier).2.disk := by
  obtain ⟨saves, creates, handles, breaks⟩ := failures_spare_files .shelf
  have contains := Collection.vacant_shelf.contains
  have valid : isName "smoke" = true := by decide
  have undrafted : shelfService.Undrafted := fun name bytes stands => by
    rw [Collection.draft_place, Disk.get?_of_ne (by simp)] at stands
    cases stands
  refine ⟨?_, ?_, ?_, ?_⟩
  · obtain ⟨left, ends⟩ := Collection.ends_update_of_broken contains valid (.ofNat 0)
      (by decide) (Flow.write_savedText (some Collection.pausing)) .notText
    exact ⟨_, left, ends, saves _ _ _ _ _ _ (fun bytes stands => by cases stands) ends⟩
  · obtain ⟨left, ends, stands⟩ := Collection.ends_create_of_broken contains valid
      (by decide) rfl (Flow.write_savedText none) List.nil_prefix .notText
    have changed : ¬ (∅ : Disk).Spares Collection.shelf.root left := fun spares => by
      cases (spares.file_iff _ _).mp stands
    exact ⟨_, left, ends, changed, not_not.mp ((creates _ _ _ _ _ ends).not.mp changed)⟩
  · have asks : savingNothing.Asks "PUT" .flow "smoke" := asks_smoke rfl
    have refused : (shelfService.handle 9 savingNothing).1 = .ofStatus .unsupportedMediaType := by
      rw [put_of_asks asks]
      rfl
    exact ⟨by rw [refused]; rfl, handles _ _ _ rfl undrafted (by rw [refused]; decide)⟩
  · obtain ⟨left, refused, stands⟩ := placing_on_full
    have status : (shelfService.handle 9 placing fullCarrier).1.status = .internalError := by
      rw [refused]
      rfl
    refine ⟨status, (breaks fullCarrier shelfService 9 placing faithful_fullCarrier rfl undrafted
      (by rw [status]; decide)).resolve_left fun spares => ?_⟩
    rw [refused] at spares
    cases (spares.file_iff _ _).mp stands

/-- A flow whose content cannot be written is there all the same, and one whose name is too long
leaves the directory of the collection behind. -/
theorem create_not_sparing :
    (∃ e left, (Collection.shelf.create "smoke" none).Ends ∅ (.error e) left ∧
      left.get? (Collection.shelf.place "smoke") = some (.file []) ∧
        (∅ : Disk).get? (Collection.shelf.place "smoke") = none) ∧
    ∃ name e left, (Collection.shelf.create name none).run ∅ = (.error e, left) ∧
      left.get? Collection.shelf.root = some .directory ∧
        (∅ : Disk).get? Collection.shelf.root = none := by
  have contains := Collection.vacant_shelf.contains
  constructor
  · obtain ⟨left, ends, stands⟩ := Collection.ends_create_of_broken contains
      (by decide : isName "smoke" = true) (by decide) rfl
      (Flow.write_savedText none) List.nil_prefix .notText
    exact ⟨_, left, ends, stands, rfl⟩
  · let name := String.ofList (List.replicate 300 'a')
    have valid : isName name = true := by
      rw [isName, Text.isBlankText, String.toList_ofList]
      decide +kernel
    have unheld : ¬ (∅ : Disk).Holds (Collection.shelf.place name) := fun holds => by
      have short := holds.names _ (List.mem_append_right _ (List.mem_singleton_self _))
      rw [String.utf8ByteSize_append] at short
      have long : name.utf8ByteSize = 300 := by decide +kernel
      exact absurd short (by rw [long]; decide)
    obtain ⟨made, makes, limits, leads, -⟩ := contains.made
    rw [Disk.Holds, ← limits] at unheld
    have ran := Collection.create_of_made valid (Flow.write_savedText none) makes
    cases opens : made.createNew (Collection.shelf.place name) with
    | ok opened =>
      exact absurd ((Disk.createNew_eq_ok_iff _ _ _).mp opens).1.holds unheld
    | error fault =>
      rw [opens] at ran
      exact ⟨name, _, made, ran, leads _ List.prefix_rfl, rfl⟩

end Shelf

end Scenario.Api
