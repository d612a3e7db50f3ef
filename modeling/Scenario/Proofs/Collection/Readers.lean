import Scenario.Proofs.Collection.Sharing
/-!
Readers beside writers.

A flow is read by one call, so that a reader sees the disk of one moment. Where nobody creates the
flow it is complete, whoever saves or deletes it in the meantime. A flow that is being created can be
seen before all of it is written: while its file is empty, it reads as a flow that has no content yet.
-/
namespace Scenario

open Relation (ReflTransGen)

namespace Collection

variable {collection : Collection} {texts : Dict String} {commands : List Command}
  {disk : Disk} {shop : Workshop (Except FlowError Reply)} {name : String} {i : Nat}
  {reply : Except FlowError Reply}

/-- What a reader may see of a flow. -/
inductive Sees (collection : Collection) (texts : Dict String) (commands : List Command)
    (shop : Workshop (Except FlowError Reply)) (name : String) : Except FlowError Reply → Prop where
  | refused (invalid : isName name = false) : Sees collection texts commands shop name
      (.error (.invalidName name))
  | unheld {fault : DiskFault} (valid : isName name = true)
    (unheld : ¬ shop.disk.Holds (collection.place name)) :
    Sees collection texts commands shop name (.error (.disk fault))
  | absent (missing : shop.disk.read (collection.place name) = .error .notFound) :
    Sees collection texts commands shop name (.error (.disk .notFound))
  | whole {text : String} (whole : Whole texts commands name text)
    (stands : shop.disk.get? (collection.place name) = some (.file (bytesOf text.toList))) :
    Sees collection texts commands shop name ((collection.registry.read text).map .loaded)
  | torn {reply : Except FlowError Reply} {part : List UInt8}
    (writes : collection.Writes commands shop name part)
    (stands : shop.disk.get? (collection.place name) = some (.file part)) :
    Sees collection texts commands shop name reply

/-- The flow is what was read of its text at first, or some command stores it under the name. -/
def Given (collection : Collection) (texts : Dict String) (commands : List Command) (name : String)
    (loaded : Option Flow) : Prop :=
  (∃ text, texts.get? name = some text ∧ collection.registry.read text = .ok loaded) ∨
    ∃ command ∈ commands, command.Gives name loaded

def readReply (collection : Collection) (name : String) (disk : Disk) : Except FlowError Reply :=
  (((Command.read name).task collection).run disk).1

theorem readReply_of_run {loaded : Except FlowError (Option Flow)} {left : Disk}
    (ran : (collection.read name).run disk = (loaded, left)) :
    collection.readReply name disk = loaded.map .loaded := by
  cases loaded with
  | error e => exact congrArg Prod.fst (FileTask.run_bind_of_error ran _)
  | ok loaded => exact congrArg Prod.fst (FileTask.run_bind_of_ok ran _)

theorem read_of_fault (valid : isName name = true) {fault : DiskFault}
    (failed : disk.read (collection.place name) = .error fault) :
    (collection.read name).run disk = (.error (.disk fault), disk) := by
  simp [read, FileTask.readText, FileTask.run_bind, flowPath_of_isName valid, Call.run, failed,
    Except.mapError]

theorem employ_worker (collection : Collection) (disk : Disk) {command : Command}
    (asked : commands[i]? = some command) :
    (collection.employ commands disk).workers[i]? = some ⟨command.program collection, none⟩ := by
  rw [employ, Workshop.start, List.getElem?_map, List.getElem?_map, asked]
  rfl

/-- A reader is answered as at one moment between its call and its answer. -/
theorem read_at_once (asked : commands[i]? = some (.read name))
    (steps : ReflTransGen Workshop.Goes (collection.employ commands disk) shop)
    (replied : shop.result? i = some reply) :
    ∃ before, ReflTransGen Workshop.Goes (collection.employ commands disk) before ∧
      ReflTransGen Workshop.Goes before shop ∧ reply = collection.readReply name before.disk := by
  have begun := employ_worker collection disk asked
  obtain ⟨file, done⟩ := Workshop.result?_eq_some_iff.mp replied
  cases valid : isName name with
  | true =>
    obtain ⟨next, same, replies⟩ := read_program collection valid
    rw [same] at begun
    obtain ⟨worker, here, waiting | ⟨before, reached, leads, finished⟩⟩ :=
      Workshop.answered_at_once (fun _ => rfl) replies begun steps
    · cases here.symm.trans done
      cases waiting
    · cases here.symm.trans done
      refine ⟨before, reached, leads, ?_⟩
      rw [← same] at finished
      exact Program.done.inj finished
  | false =>
    obtain ⟨worker, here, finished⟩ := Workshop.finished
      (begun.trans (by rw [Command.program, Command.task, read, flowPath_of_not_isName valid]; rfl))
      steps
    cases here.symm.trans done
    refine ⟨_, .refl, steps, ?_⟩
    rw [readReply_of_run (read_of_not_isName valid _)]
    exact Program.done.inj finished

/-- Where a flow can be held there is one or there is none. -/
theorem Orderly.fault_eq_notFound (orderly : collection.Orderly texts commands shop)
    (valid : isName name = true) (holds : shop.disk.Holds (collection.place name)) {fault : DiskFault}
    (failed : shop.disk.read (collection.place name) = .error fault) : fault = .notFound := by
  rw [Disk.read, place] at failed
  rcases Disk.locate_child orderly.opens holds with lost | found
  · rw [lost] at failed
    cases failed
    rfl
  · rw [found] at failed
    cases stands : shop.disk.get? (collection.place name) with
    | none =>
      rw [← place, stands] at failed
      cases failed
      rfl
    | some file =>
      obtain ⟨bytes, rfl⟩ : ∃ bytes, file = .file bytes := by
        rcases orderly.whole name file (ne_empty_of_isName valid) stands with
          ⟨text, -, same⟩ | ⟨part, same, -⟩
        · exact ⟨_, same⟩
        · exact ⟨_, same⟩
      rw [← place, stands] at failed
      cases failed

/-- What a reader would see at any moment. -/
theorem Orderly.sees (orderly : collection.Orderly texts commands shop) (name : String) :
    collection.Sees texts commands shop name (collection.readReply name shop.disk) := by
  cases valid : isName name with
  | false =>
    rw [readReply_of_run (read_of_not_isName valid shop.disk)]
    exact .refused valid
  | true =>
    cases found : shop.disk.read (collection.place name) with
    | error fault =>
      rw [readReply_of_run (read_of_fault valid found)]
      by_cases holds : shop.disk.Holds (collection.place name)
      · obtain rfl := orderly.fault_eq_notFound valid holds found
        exact .absent found
      · exact .unheld valid holds
    | ok bytes =>
      obtain ⟨-, stands⟩ := (Disk.read_eq_ok_iff _ _ _).mp found
      rcases orderly.whole name _ (ne_empty_of_isName valid) stands with
        ⟨text, whole, same⟩ | ⟨part, same, writes⟩
      · cases same
        rw [readReply_of_run (read_of_bytes valid found)]
        exact .whole whole stands
      · cases same
        exact .torn writes stands

/-- However the calls of the commands come, a reader is answered from the disk of one moment. It is
told that nothing is there, or sees the whole of a text that was there at first or that some command
stores, unless at that moment a command that creates the flow has opened its file and has not come to
its end. -/
theorem reply_of_reader (standard : collection.registry = .standard)
    (contains : collection.Contains disk texts)
    (nodup : (commands.filterMap (·.draft? collection)).Nodup)
    (asked : commands[i]? = some (.read name))
    (steps : ReflTransGen Workshop.Goes (collection.employ commands disk) shop)
    (replied : shop.result? i = some reply) :
    (∃ before, ReflTransGen Workshop.Goes (collection.employ commands disk) before ∧
      ReflTransGen Workshop.Goes before shop ∧ reply = collection.readReply name before.disk ∧
      collection.Sees texts commands before name reply) ∧
    (isName name = true → disk.Holds (collection.place name) →
      (∀ text, texts.get? name = some text → ∃ loaded, collection.registry.read text = .ok loaded) →
      (∀ command ∈ commands, ∀ loaded, command.Gives name loaded → Flow.Savable loaded) →
      (∀ loaded, .create name loaded ∉ commands) →
      reply = .error (.disk .notFound) ∨
        ∃ loaded, collection.Given texts commands name loaded ∧ reply = .ok (.loaded loaded)) := by
  obtain ⟨before, reached, leads, answered⟩ := read_at_once asked steps replied
  have sees := (Orderly.of_reachable standard contains nodup reached).sees name
  rw [← answered] at sees
  refine ⟨⟨before, reached, leads, answered, sees⟩, ?_⟩
  intro valid holds readable savable uncreated
  cases sees with
  | refused invalid => cases invalid.symm.trans valid
  | unheld _ unheld =>
    rw [Disk.Holds, Workshop.limits_of_reachable reached] at unheld
    exact absurd holds unheld
  | absent => exact .inl rfl
  | whole whole =>
    rcases whole with there | ⟨command, member, loaded, gives, rfl⟩
    · obtain ⟨loaded, read⟩ := readable _ there
      exact .inr ⟨loaded, .inl ⟨_, there, read⟩, by rw [read]; rfl⟩
    · refine .inr ⟨loaded, .inr ⟨command, member, gives⟩, ?_⟩
      rw [standard, (savable command member loaded gives).read_savedText]
      rfl
  | torn writes =>
    obtain ⟨j, loaded, -, creates, -⟩ := writes
    exact absurd (List.mem_of_getElem? creates) (uncreated loaded)

def shelfCrowd : List Command := [.update "login" pausing (.ofNat 7), .read "login"]

theorem shelf_crowd_goes : ∃ shop,
    ReflTransGen Workshop.Goes (shelf.employ shelfCrowd ∅) shop ∧
      shop.result? 1 = some (.ok (.loaded (some pausing))) := by
  have login : (∅ : Disk).Holds (shelf.place "login") := by decide +kernel
  have draft : (∅ : Disk).Holds (draft (shelf.place "login") (.ofNat 7)) := by decide +kernel
  have writer := employ_worker shelf ∅ (show shelfCrowd[0]? = some _ from rfl)
  have reader := employ_worker shelf ∅ (show shelfCrowd[1]? = some _ from rfl)
  obtain ⟨between, saving, stands, -, others⟩ := (careful_program rfl _).goesAlone writer
  have reader := others 1 _ (by decide) reader
  obtain ⟨after, seeing, -, done, -⟩ := (careful_program rfl _).goesAlone reader
  refine ⟨after, saving.trans seeing, Workshop.result?_eq_some_iff.mpr ⟨none, ?_⟩⟩
  have saved : (Command.update "login" pausing (.ofNat 7)).Follows shelf ∅ ∅ :=
    vacant_shelf.stores.follows rfl ⟨savable_pausing, fun _ => ⟨login, draft⟩⟩
  have seen : (Command.read "login").Follows shelf _ _ := saved.stores.follows rfl fun _ => by
    rw [FileTask.limits_run]
    exact login
  have replied : ((Command.program shelf (.read "login")).run between.disk).1 =
      .ok (.loaded (some pausing)) := by
    rw [stands]
    exact seen.reply.trans (by rfl)
  rw [done, replied]

theorem shelf_reader_replied : ∃ shop,
    ReflTransGen Workshop.Goes (shelf.employ shelfCrowd ∅) shop ∧
      shop.result? 1 = some (.ok (.loaded (some pausing))) ∧
      (∃ before, ReflTransGen Workshop.Goes (shelf.employ shelfCrowd ∅) before ∧
        ReflTransGen Workshop.Goes before shop ∧
        Except.ok (.loaded (some pausing)) = shelf.readReply "login" before.disk ∧
        shelf.Sees ∅ shelfCrowd before "login" (.ok (.loaded (some pausing)))) ∧
      ∃ loaded, shelf.Given ∅ shelfCrowd "login" loaded ∧
        (.ok (.loaded (some pausing)) : Except FlowError Reply) = .ok (.loaded loaded) := by
  obtain ⟨shop, steps, replied⟩ := shelf_crowd_goes
  have savable (command : Command) (member : command ∈ shelfCrowd) (loaded : Option Flow)
      (gives : command.Gives "login" loaded) : Flow.Savable loaded := by
    simp only [shelfCrowd, List.mem_cons, List.not_mem_nil, or_false] at member
    rcases member with rfl | rfl
    · obtain ⟨-, rfl⟩ := gives
      exact savable_pausing
    · cases gives
  obtain ⟨moment, whole⟩ :=
    reply_of_reader rfl vacant_shelf.contains (by decide) rfl steps replied
  refine ⟨shop, steps, replied, moment, ?_⟩
  rcases whole (by decide +kernel) (by decide +kernel) nofun savable (by simp [shelfCrowd]) with
    absent | given
  · cases absent
  · exact given

theorem create_program (standard : collection.registry = .standard) (valid : isName name = true)
    (loaded : Option Flow) :
    ∃ next, (Command.create name loaded).program collection =
        .call (.makeDirectories collection.root) next ∧
      ∃ later, next (.ok ()) = .call (.createNew (collection.place name)) later := by
  rw [Command.program, Command.task, create, flowPath_of_isName valid, standard,
    Flow.write_savedText]
  exact ⟨_, rfl, _, rfl⟩

/-- While a flow that is not there is created, its file is empty at some moment; a reader need not have
begun by then. -/
theorem exists_opened (standard : collection.registry = .standard)
    (contains : collection.Contains disk texts) (valid : isName name = true)
    (holds : disk.Holds (collection.place name)) (absent : texts.get? name = none) {j : Nat}
    {loaded : Option Flow} (creates : commands[j]? = some (.create name loaded))
    (asked : commands[i]? = some (.read name)) :
    ∃ shop, ReflTransGen Workshop.Goes (collection.employ commands disk) shop ∧
      shop.disk.read (collection.place name) = .ok [] ∧
      shop.workers[i]? = some ⟨Command.program collection (.read name), none⟩ := by
  have apart : i ≠ j := by
    rintro rfl
    cases creates.symm.trans asked
  obtain ⟨next, opening, later, opens⟩ := create_program standard valid loaded
  have creator := employ_worker collection disk creates
  have reader := employ_worker collection disk asked
  rw [opening] at creator
  obtain ⟨made, makes, limits, leads, contained⟩ := contains.made
  rw [Disk.Holds, ← limits] at holds
  obtain ⟨first, one, rfl, creator, others⟩ := Workshop.exists_done creator makes
  have reader := others i _ apart reader
  rw [opens] at creator
  have free : first.disk.get? (collection.place name) = none := by
    rw [contained.get?_place valid, absent]
    rfl
  have opened : first.disk.createNew (collection.place name) =
      .ok (first.disk.set (collection.place name) (.file [])) :=
    (Disk.createNew_eq_ok_iff _ _ _).mpr ⟨Disk.reaches_child leads holds, free, rfl⟩
  have carried : (Call.createNew (collection.place name)).run first.disk = (.ok (), _) :=
    congrArg (Call.change first.disk) opened
  obtain ⟨second, two, held, -, others⟩ := Workshop.exists_done creator carried
  refine ⟨second, .tail (.single one) two, ?_, others i _ apart reader⟩
  have same : Disk.SameBut (collection.place name) first.disk second.disk :=
    held ▸ Disk.sameBut_set first.disk _ _
  rw [Disk.read_eq_ok_iff]
  refine ⟨Disk.reaches_child (same.leads leads) (same.holds_iff.mpr holds), ?_⟩
  rw [held, Disk.get?_set _ (by simp [place]), if_pos rfl]

/-- Whenever a flow that is not there is created while it is read, the reader may be told that the
flow has no content yet. -/
theorem exists_unwritten_read (standard : collection.registry = .standard)
    (contains : collection.Contains disk texts) (valid : isName name = true)
    (holds : disk.Holds (collection.place name)) (absent : texts.get? name = none) {j : Nat}
    {loaded : Option Flow} (creates : commands[j]? = some (.create name loaded))
    (asked : commands[i]? = some (.read name)) :
    ∃ shop, ReflTransGen Workshop.Goes (collection.employ commands disk) shop ∧
      shop.result? i = some (.ok (.loaded none)) := by
  obtain ⟨reads, reading, replies⟩ := read_program collection valid
  obtain ⟨opened, steps, empty, reader⟩ :=
    exists_opened standard contains valid holds absent creates asked
  rw [reading] at reader
  have found : (Call.read (collection.place name)).run opened.disk = (.ok [], opened.disk) :=
    Prod.ext empty rfl
  obtain ⟨shop, goes, -, reader, -⟩ := Workshop.exists_done reader found
  refine ⟨shop, .tail steps goes, ?_⟩
  obtain ⟨reply, replied⟩ := replies (.ok [])
  have answer : collection.readReply name opened.disk = reply := by
    have ran := congrArg (Program.run · opened.disk) reading
    rw [Program.run, found] at ran
    dsimp only at ran
    rw [replied] at ran
    exact congrArg Prod.fst ran
  have blank : collection.readReply name opened.disk = .ok (.loaded none) := by
    have blank : bytesOf "".toList = [] := by simp [bytesOf]
    rw [readReply_of_run (read_of_bytes valid (empty.trans (by rw [blank]))), standard]
    rfl
  rw [Workshop.result?_eq_some_iff]
  exact ⟨_, by rw [reader, replied, ← answer, blank]⟩

/-- A reader is told that there is a flow without content, which nobody has stored. -/
theorem shelf_torn_reply : ∃ shop,
    ReflTransGen Workshop.Goes
        (shelf.employ [.create "login" (some pausing), .read "login"] ∅) shop ∧
      shop.result? 1 = some (.ok (.loaded none)) ∧
      ¬ shelf.Given ∅ [.create "login" (some pausing), .read "login"] "login" none := by
  have creates : [.create "login" (some pausing), Command.read "login"][0]? =
      some (.create "login" (some pausing)) := rfl
  obtain ⟨shop, steps, replied⟩ := exists_unwritten_read rfl vacant_shelf.contains (by decide +kernel)
    (by decide +kernel) rfl creates (i := 1) rfl
  refine ⟨shop, steps, replied, ?_⟩
  rintro (⟨text, there, -⟩ | ⟨command, member, gives⟩)
  · cases there
  · simp only [List.mem_cons, List.not_mem_nil, or_false] at member
    rcases member with rfl | rfl
    · cases gives.2
    · cases gives

end Collection

end Scenario
