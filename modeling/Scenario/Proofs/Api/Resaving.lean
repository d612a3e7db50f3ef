import Scenario.Proofs.Api.SavedRuns
import Scenario.Proofs.Json.Compact
/-!
Documents that are put back.

What is got of a flow can be put in its place again, unless the flow was not written yet, its
document is too large, or its name leaves no room for the name of a draft. Doubles are read twice on
the way, so the document that is got afterwards is the same if this does not change them.
-/
namespace Scenario

open Json (Value)

theorem Flow.Sound.reread {loaded : Option Flow} (sound : Sound loaded) :
    Sound (loaded.map Flow.reread) where
  storable := storable_reread sound.storable
  fits := by
    rw [document_reread]
    exact ⟨Value.ordered_mapDoubles _ sound.fits.ordered,
      Value.nesting_mapDoubles_le _ sound.fits.shallow, fun _ _ => trivial⟩
  runnable := by
    intro flow member
    obtain ⟨original, present, rfl⟩ := Option.mem_map.mp member
    exact (sound.runnable original present).mapDoubles

theorem Flow.document_eq_empty_iff (loaded : Option Flow) :
    document loaded = .object [] ↔ loaded = none := by
  cases loaded with
  | none => exact iff_of_true rfl rfl
  | some flow =>
    refine iff_of_false (fun same => ?_) nofun
    have nodes := congrArg (Value.field? "nodes") same
    simp [document, Value.ofFields, Value.field?, Entries.get?_ofList, Entries.get?] at nodes

theorem Collection.place_of_read {collection : Collection} {name : String} {disk left : Disk}
    {loaded : Option Flow} (read : (collection.read name).run disk = (.ok loaded, left)) :
    name ≠ "" ∧ (disk.get? (collection.place name)).isSome := by
  cases valid : isName name with
  | false =>
    rw [read_of_not_isName valid] at read
    cases read
  | true =>
    refine ⟨ne_empty_of_isName valid, ?_⟩
    cases bytes : disk.read (collection.place name) with
    | error fault =>
      simp [Collection.read, FileTask.readText, FileTask.run_bind, flowPath_of_isName valid,
        Call.run, bytes, Except.mapError] at read
    | ok bytes' =>
      rw [((Disk.read_eq_ok_iff _ _ _).mp bytes).2]
      rfl

namespace Api

open Handling

variable {service : Service} {fuel : Nat} {request : Incoming} {name : String}

theorem stored_of_got {collection : Collection} (standard : collection.registry = .standard)
    (same : service.collection = collection) {flows : Dict (Option Flow)}
    (stores : collection.Stores Flow.Sound service.disk flows) {document : Value}
    (asks : request.Asks "GET" .flow name)
    (got : (service.handle fuel request).1 = .ofContent .ok (.json document)) :
    ∃ loaded, flows.get? name = some loaded ∧
      document = Flow.document (loaded.map Flow.reread) := by
  cases bound : flows.get? name with
  | some loaded =>
    refine ⟨loaded, rfl, ?_⟩
    rw [get_of_asks asks, got_of_stores stores bound same standard] at got
    cases got
    rfl
  | none =>
    subst same
    cases read : (service.collection.read name).run service.disk with
    | mk result left =>
      cases result with
      | error e =>
        simp [get_of_asks asks, getFlow, on_bind, read, Except.mapError, Answer.ofResult,
          Answer.ofStatus, Answer.ofContent] at got
      | ok loaded =>
        obtain ⟨solid, stands⟩ := Collection.place_of_read read
        rw [stores.get?_place name solid, bound] at stands
        cases stands

theorem saveFlow_of_none (typed : request.contentType.any isJsonType = true)
    (small : request.body.utf8ByteSize ≤ bodyLimit) {document : Value}
    (parsed : Json.parse request.body = .ok document)
    (decoded : service.collection.registry.decode document = .ok none) :
    (saveFlow fuel name request).on service = (.error .badRequest, service) := by
  have body : jsonBody request = .ok request.body := jsonBody_eq_ok_iff.mpr ⟨typed, small, rfl⟩
  have read : readJson request.body = .ok document := Success.mapError_iff.mpr parsed
  have loaded : decodeFlow service.collection.registry document = .ok none :=
    Success.mapError_iff.mpr decoded
  simp [saveFlow, on_bind, body, read, loaded]

section Stored

variable {collection : Collection} (standard : collection.registry = .standard)
  (same : service.collection = collection) {flows : Dict (Option Flow)}
  (stores : collection.Stores Flow.Sound service.disk flows) {loaded : Option Flow}
  (bound : flows.get? name = some loaded)

include standard same stores bound

theorem handle_get_of_stores (asks : request.Asks "GET" .flow name) :
    service.handle fuel request =
      (.ofContent .ok (.json (Flow.document (loaded.map Flow.reread))),
        { service with runner := service.runner.settle fuel }) := by
  have read := read_of_stores stores bound standard
  subst same
  simp [get_of_asks asks, getFlow, on_bind, read, standard, encode_eq_document, Except.mapError,
    Except.map, Answer.ofResult]

/-- A flow that is put in the place of another is stored there, or it is refused and all flows stay
as they are; which of both it is depends on the room for the name of a draft. -/
theorem handle_put_of_stores (puts : request.Asks "PUT" .flow name)
    (typed : request.contentType.any isJsonType = true)
    (small : request.body.utf8ByteSize ≤ bodyLimit) {document : Value} {flow : Flow}
    (parsed : Json.parse request.body = .ok document)
    (decoded : service.collection.registry.decode document = .ok (some flow))
    (sound : Flow.Sound (some flow)) :
    let saved := service.handle fuel request
    let room := service.disk.Holds (Collection.draft (collection.place name) (.ofNat service.issued))
    saved.2.collection = collection ∧
      ((saved.1.status = .ok ∧ room ∧
          collection.Stores Flow.Sound saved.2.disk (flows.insert name (some flow))) ∨
        (saved.1.status ≠ .ok ∧ ¬ room ∧ collection.Stores Flow.Sound saved.2.disk flows)) := by
  intro saved room
  obtain ⟨graph, built⟩ := Graph.build_of_runnable (sound.runnable _ rfl)
  have handled : saved = _ := put_of_asks puts
  rw [saveFlow_of_built typed small parsed decoded built] at handled
  have written := Flow.write_savedText (some flow)
  rw [← standard] at written
  have present : ((flows.map Flow.savedText).get? name).isSome := by
    rw [Collection.get?_savedTexts, bound]
    rfl
  obtain ⟨valid, holds⟩ := stores.contains.names name present
  obtain ⟨left, ⟨-, held, ran, contains⟩ | ⟨unheld, ⟨fault, ran⟩, contains⟩⟩ :=
    Collection.update_cases stores.contains valid (.ofNat service.issued) written
  · rw [← same] at ran
    rw [handled, ran]
    exact ⟨same, .inl ⟨rfl, held, stores.insert sound contains⟩⟩
  · rw [← same] at ran
    rw [handled, ran]
    exact ⟨same, .inr ⟨ofError_ne_ok _, fun room => unheld ⟨holds, room⟩, contains, stores.good⟩⟩

/-- What becomes of a document that is put back: it is refused and all stays as it is, or it is
saved and read from its file. -/
theorem put_back_cases {get put : Incoming} (gets : get.Asks "GET" .flow name)
    (puts : put.Asks "PUT" .flow name) (typed : put.contentType.any isJsonType = true)
    (body : put.body = (Flow.document (loaded.map Flow.reread)).compact) (fuel later : Nat) :
    let document := Flow.document (loaded.map Flow.reread)
    let saved := service.handle fuel put
    let again := (saved.2.handle later get).1
    let fits := put.body.utf8ByteSize ≤ bodyLimit
    let room := service.disk.Holds (Collection.draft (collection.place name) (.ofNat service.issued))
    (saved.1.status = .ok ∧ (loaded ≠ none ∧ fits ∧ room) ∧
        again = .ofContent .ok (.json document.reread.reread)) ∨
      (saved.1.status ≠ .ok ∧ ¬ (loaded ≠ none ∧ fits ∧ room) ∧
        again = .ofContent .ok (.json document)) := by
  intro document saved again fits room
  change (_ ∧ _ ∧ (saved.2.handle later get).1 = _) ∨ _ ∧ _ ∧ (saved.2.handle later get).1 = _
  by_cases small : fits
  case neg =>
    have handled : saved = _ := put_of_large puts typed (Nat.not_le.mp small)
    rw [handled, handle_get_of_stores standard same stores bound gets]
    exact .inr ⟨nofun, fun ⟨_, fits, _⟩ => small fits, rfl⟩
  have sound := (stores.good name loaded bound).reread
  have parsed : Json.parse put.body = .ok document.reread :=
    body ▸ Value.parse_compact sound.fits.ordered sound.fits.shallow
  -- The doubles were read once when the document was got; they are read again from the body.
  have read : document.reread = Flow.document ((loaded.map Flow.reread).map Flow.reread) :=
    (Flow.document_reread _).symm
  have decoded : service.collection.registry.decode document.reread =
      .ok ((loaded.map Flow.reread).map Flow.reread) := by
    rw [same, standard, read]
    exact decode_document sound.reread.storable
  cases loaded with
  | none =>
    have handled : saved = _ := put_of_asks puts
    rw [saveFlow_of_none typed small parsed decoded] at handled
    refine .inr ⟨by rw [handled]; nofun, fun ⟨absent, _⟩ => absent rfl, ?_⟩
    rw [handled, handle_get_of_stores standard same stores bound gets]
  | some flow =>
    obtain ⟨collected, ⟨done, held, kept⟩ | ⟨refused, unheld, kept⟩⟩ :=
      handle_put_of_stores standard same stores bound puts typed small parsed decoded sound.reread
    · refine .inl ⟨done, ⟨nofun, small, held⟩, ?_⟩
      have found : (flows.insert name (some flow.reread.reread)).get? name =
          some (some flow.reread.reread) := by
        rw [Dict.get?_insert, if_pos rfl]
      rw [handle_get_of_stores standard collected kept found gets, Flow.document_reread, read]
      rfl
    · refine .inr ⟨refused, fun ⟨_, _, room⟩ => unheld room, ?_⟩
      rw [handle_get_of_stores standard collected kept bound gets]

end Stored

/-- Whatever happened to a service whose collection was empty at first, a document that is got can
be put back and is then got again exactly if it has content and is not too large, there is room for
the name of a draft, and its doubles stay the same when they are read twice. Whatever is refused is
got as before. -/
theorem Service.put_back_iff {collection : Collection} {disk : Disk}
    (standard : collection.registry = .standard) (vacant : collection.Vacant disk)
    (runner : Runner) (timeout : UInt64) (happenings : List Happening) {get put : Incoming}
    (gets : get.Asks "GET" .flow name) (puts : put.Asks "PUT" .flow name)
    (typed : put.contentType.any isJsonType = true) {document : Value}
    (body : put.body = document.compact) (first second third : Nat) :
    let service := (Service.start collection disk runner timeout).afterAll happenings
    let got := service.handle first get
    let saved := got.2.handle second put
    let again := (saved.2.handle third get).1
    got.1 = .ofContent .ok (.json document) →
      (saved.1.status = .ok ∧ again = .ofContent .ok (.json document) ↔
        document ≠ .object [] ∧ document.compact.utf8ByteSize ≤ bodyLimit ∧
          service.disk.Holds (Collection.draft (collection.place name) (.ofNat service.issued)) ∧
            document.reread.reread = document) ∧
      (saved.1.status = .ok → again = .ofContent .ok (.json document.reread.reread)) ∧
      (saved.1.status ≠ .ok → again = .ofContent .ok (.json document)) := by
  intro service got saved again answered
  obtain ⟨same, flows, stores⟩ : service.Sound collection :=
    (closed_sound standard).afterAll happenings ⟨rfl, ∅, vacant.stores⟩
  obtain ⟨loaded, bound, rfl⟩ := stored_of_got standard same stores gets answered
  have left : got.2 = { service with runner := service.runner.settle first } :=
    congrArg Prod.snd (handle_get_of_stores standard same stores bound gets)
  have content : Flow.document (loaded.map Flow.reread) ≠ .object [] ↔ loaded ≠ none := by
    rw [ne_eq, Flow.document_eq_empty_iff, Option.map_eq_none_iff]
  have collected : got.2.collection = collection := left ▸ same
  have stored : collection.Stores Flow.Sound got.2.disk flows := left ▸ stores
  have issued : got.2.issued = service.issued := by rw [left]
  have disk : got.2.disk = service.disk := by rw [left]
  rw [content, ← issued, ← disk, ← body]
  rcases put_back_cases standard collected stored bound gets puts typed body second third
    with ⟨done, ⟨written, fits, room⟩, read⟩ | ⟨refused, noRoom, read⟩
  · refine ⟨?_, fun _ => read, fun refused => absurd done refused⟩
    constructor
    · rintro ⟨-, unchanged⟩
      have documents := congrArg Answer.content (read.symm.trans unchanged)
      exact ⟨written, fits, room, Content.json.inj documents⟩
    · rintro ⟨-, -, -, fixed⟩
      exact ⟨done, read.trans (by rw [fixed])⟩
  · refine ⟨?_, fun done => absurd done refused, fun _ => read⟩
    constructor
    · rintro ⟨done, -⟩
      exact absurd done refused
    · rintro ⟨written, fits, room, -⟩
      exact absurd ⟨written, fits, room⟩ noRoom

section Shelf

def getting : Incoming := ⟨"GET", "/api/flows/smoke", none, ""⟩

def puttingBack (document : Value) : Incoming :=
  ⟨"PUT", "/api/flows/smoke", some "application/json", document.compact⟩

theorem asks_getting : getting.Asks "GET" .flow "smoke" :=
  asks_smoke rfl

theorem asks_puttingBack (document : Value) :
    (puttingBack document).Asks "PUT" .flow "smoke" :=
  asks_smoke rfl

theorem pause_put_back :
    let service := shelfService.afterAll [.request 9 savingPause]
    let document := Flow.document (some Collection.pausing)
    let saved := (service.handle 9 getting).2.handle 9 (puttingBack document)
    (service.handle 9 getting).1 = .ofContent .ok (.json document) ∧
      saved.1.status = .ok ∧
      (saved.2.handle 9 getting).1 = .ofContent .ok (.json document) := by
  intro service document saved
  obtain ⟨disk, put, limits, stores⟩ := shelf_savingPause
  have reached : service =
      { shelfService with disk, issued := 1, runner := shelfService.runner.settle 9 } :=
    congrArg Prod.snd put
  have bound : ((∅ : Dict (Option Flow)).insert "smoke" (some Collection.pausing)).get? "smoke" =
    some (some Collection.pausing) := by rfl
  have got : (service.handle 9 getting).1 = .ofContent .ok (.json document) := by
    rw [reached, handle_get_of_stores rfl rfl stores bound asks_getting]
    rfl
  have written : document ≠ .object [] := (Flow.document_eq_empty_iff _).not.mpr nofun
  have issued : service.issued = 1 := by rw [reached]
  have room : service.disk.Holds
      (Collection.draft (Collection.shelf.place "smoke") (.ofNat service.issued)) := by
    rw [issued, Disk.Holds, reached, limits]
    decide
  have standard : Collection.shelf.registry = .standard := rfl
  have again := Service.put_back_iff standard Collection.vacant_shelf
    (.start .standard 0 0 .offline) 60000 [.request 9 savingPause] asks_getting
    (asks_puttingBack document) (by decide) rfl 9 9 9 got
  exact ⟨got, again.1.mpr ⟨written, by decide, room, by rfl⟩⟩

/-- A flow that was not written yet is got as a document that cannot be put back. -/
theorem placeholder_not_put_back :
    let service := shelfService.afterAll [.request 9 placing]
    (service.handle 9 getting).1 = .ofContent .ok (.json (.object [])) ∧
      ((service.handle 9 getting).2.handle 9 (puttingBack (.object []))).1 =
        .ofStatus .badRequest := by
  intro service
  have stores : Collection.shelf.Stores Flow.Sound shelfService.disk ∅ :=
    Collection.vacant_shelf.stores
  have asks : placing.Asks "POST" .flow "smoke" := asks_smoke rfl
  obtain ⟨disk, ran, contains⟩ := Collection.create_new stores.contains
    (by decide : isName "smoke" = true) (by decide) (Flow.write_savedText none) rfl
  have placed : service = { shelfService with disk, runner := shelfService.runner.settle 9 } := by
    change (shelfService.handle 9 placing).2 = _
    have blank : readOptionalJson "" = .ok none := by rfl
    have collected : shelfService.collection = .shelf := rfl
    rw [create_of_asks asks (by decide)]
    simp [createFlow, on_bind, placing, blank, collected, ran, Except.mapError]
  have bound : ((∅ : Dict (Option Flow)).insert "smoke" none).get? "smoke" = some none := by rfl
  have empty : Flow.document ((none : Option Flow).map Flow.reread) = .object [] := rfl
  have parsed : Json.parse (puttingBack (.object [])).body = .ok (.object []) :=
    Value.parse_compact Flow.Sound.none.fits.ordered Flow.Sound.none.fits.shallow
  rw [placed, handle_get_of_stores rfl rfl (stores.insert .none contains) bound asks_getting,
    put_of_asks (asks_puttingBack _), saveFlow_of_none (by decide) (by decide) parsed (by rfl), empty]
  exact ⟨rfl, rfl⟩

end Shelf

end Api

end Scenario
