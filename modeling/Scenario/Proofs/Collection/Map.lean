import Scenario.Proofs.Collection.Files
import Scenario.Proofs.Flow.Saving
/-!
A collection as a map.

With a handler for every kind, a collection is a map from names to flows. A command does to its
files what it does to the map, and gives the same reply, as long as the file system can hold the
names and flows can be written.
-/
namespace Scenario

open Json (Value)

/-- A flow that can be saved and loaded again. -/
structure Flow.Savable (loaded : Option Flow) : Prop where
  storable : ∀ flow ∈ loaded, flow.Storable
  fits : (document loaded).Fits Number.Double.ReadsBack Json.Parser.nestingLimit

theorem Flow.Savable.read_savedText {loaded : Option Flow} (savable : Savable loaded) :
    Registry.standard.read (savedText loaded) = .ok loaded :=
  (read_pretty savable.storable savable.fits).2.2

namespace Collection

inductive Command where
  | create (name : String) (flow : Option Flow)
  | update (name : String) (flow : Flow) (id : RunId)
  | read (name : String)
  | delete (name : String)
  | list

inductive Reply where
  | placed (path : Path)
  | loaded (flow : Option Flow)
  | deleted (present : Bool)
  | names (names : List String)

namespace Command

def name? : Command → Option String
  | .create name _ | .update name .. | .read name | .delete name => some name
  | .list => none

def task (collection : Collection) : Command → FileTask Reply
  | .create name flow => do return .placed (← collection.create name flow)
  | .update name flow id => do return .placed (← collection.update name flow id)
  | .read name => do return .loaded (← collection.read name)
  | .delete name => do return .deleted (← collection.delete name)
  | .list => do return .names (← collection.list)

/-- The reply of a map from names to flows, and what a command makes of it. -/
def onMap (collection : Collection) (flows : Dict (Option Flow)) (command : Command) :
    Except FlowError Reply × Dict (Option Flow) :=
  match command.name?.elim (.ok ()) checkName with
  | .error e => (.error e, flows)
  | .ok () =>
    match command with
    | .create name flow =>
      if flows.contains name then (.error (.disk .alreadyExists), flows)
      else (.ok (.placed (collection.place name)), flows.insert name flow)
    | .update name flow _ =>
      (.ok (.placed (collection.place name)), flows.insert name (some flow))
    | .read name =>
      match flows.get? name with
      | some flow => (.ok (.loaded flow), flows)
      | none => (.error (.disk .notFound), flows)
    | .delete name => (.ok (.deleted (flows.contains name)), flows.erase name)
    | .list => (.ok (.names flows.keys), flows)

/-- A machine can hold what the command asks for, and its flow can be saved. -/
def Admitted (collection : Collection) (limits : PathLimits) : Command → Prop
  | .create name flow =>
    Flow.Savable flow ∧ (isName name = true → limits.Holds (collection.place name))
  | .update name flow id =>
    Flow.Savable (some flow) ∧ (isName name = true → limits.Holds (collection.place name) ∧
      limits.Holds (draft (collection.place name) id))
  | .read name | .delete name => isName name = true → limits.Holds (collection.place name)
  | .list => True

end Command

/-- The directory of the collection is empty, or can be made. -/
structure Vacant (collection : Collection) (disk : Disk) : Prop where
  opens : disk.Opens collection.root
  bare : ∀ rest, rest ≠ [] → disk.get? (collection.root ++ rest) = none

/-- The flow files of a collection are those of a map from names to flows, all of which are
good. -/
structure Stores (collection : Collection) (good : Option Flow → Prop) (disk : Disk)
    (flows : Dict (Option Flow)) : Prop where
  contains : collection.Contains disk (flows.map Flow.savedText)
  good : ∀ name loaded, flows.get? name = some loaded → good loaded

variable {collection : Collection} {good : Option Flow → Prop} {disk : Disk}
  {flows : Dict (Option Flow)}

theorem Vacant.contains (vacant : collection.Vacant disk) : collection.Contains disk ∅ where
  opens := vacant.opens
  leads _ present := by cases present
  files name _ := vacant.bare [name ++ flowSuffix] (by simp)
  names _ present := by cases present
  drafts name id := by
    rw [draft_place, vacant.bare [draftName name id] (by simp)]
    simp

theorem Vacant.stores (vacant : collection.Vacant disk) : collection.Stores good disk ∅ :=
  ⟨vacant.contains, by simp [Dict.get?_empty]⟩

theorem get?_savedTexts (flows : Dict (Option Flow)) (name : String) :
    (flows.map Flow.savedText).get? name = (flows.get? name).map Flow.savedText :=
  Dict.get?_map Flow.savedText flows name

theorem Stores.get?_place (stores : collection.Stores good disk flows) (name : String)
    (solid : name ≠ "") : disk.get? (collection.place name) =
      (flows.get? name).map fun loaded => .file (bytesOf (Flow.savedText loaded).toList) := by
  rw [stores.contains.files name solid, get?_savedTexts, Option.map_map]
  rfl

theorem Stores.valid (stores : collection.Stores good disk flows) {name : String}
    (present : (flows.get? name).isSome) : isName name = true := by
  have saved : ((flows.map Flow.savedText).get? name).isSome := by
    rwa [get?_savedTexts, Option.isSome_map]
  exact (stores.contains.names name saved).1

theorem Stores.insert (stores : collection.Stores good disk flows) {left : Disk} {name : String}
    {loaded : Option Flow} (fine : good loaded)
    (contains : collection.Contains left
      ((flows.map Flow.savedText).insert name (Flow.savedText loaded))) :
    collection.Stores good left (flows.insert name loaded) := by
  constructor
  · rwa [Dict.map_insert]
  · intro other found bound
    rw [Dict.get?_insert] at bound
    split at bound
    · cases bound
      exact fine
    · exact stores.good other found bound

theorem Stores.erase (stores : collection.Stores good disk flows) {left : Disk} {name : String}
    (contains : collection.Contains left ((flows.map Flow.savedText).erase name)) :
    collection.Stores good left (flows.erase name) := by
  constructor
  · rwa [Dict.map_erase]
  · intro other found bound
    rw [Dict.get?_erase] at bound
    split at bound
    · cases bound
    · exact stores.good other found bound

section Keeping

variable {name : String} {flow : Option Flow}

theorem Stores.after_create (stores : collection.Stores good disk flows)
    (standard : collection.registry = .standard) (fine : good flow) :
    ∃ kept, collection.Stores good ((collection.create name flow).run disk).2 kept := by
  cases valid : isName name with
  | false =>
    rw [create_of_not_isName valid]
    exact ⟨flows, stores⟩
  | true =>
    have written : collection.registry.write flow = .ok (Flow.savedText flow) := by
      rw [standard, Flow.write_savedText]
    cases absent : (flows.map Flow.savedText).get? name with
    | some text =>
      rw [create_present stores.contains written (by simp [absent])]
      exact ⟨flows, stores⟩
    | none =>
      by_cases holds : disk.Holds (collection.place name)
      · obtain ⟨left, ran, contains⟩ := create_new stores.contains valid holds written absent
        rw [ran]
        exact ⟨_, stores.insert fine contains⟩
      · obtain ⟨fault, left, ran, contains⟩ := create_unheld stores.contains valid holds written
        rw [ran]
        exact ⟨flows, contains, stores.good⟩

theorem Stores.after_update {flow : Flow} (stores : collection.Stores good disk flows)
    (standard : collection.registry = .standard) (fine : good (some flow)) (id : RunId) :
    ∃ kept, collection.Stores good ((collection.update name flow id).run disk).2 kept := by
  cases valid : isName name with
  | false =>
    rw [update_of_not_isName valid]
    exact ⟨flows, stores⟩
  | true =>
    have written : collection.registry.write (some flow) = .ok (Flow.savedText (some flow)) := by
      rw [standard, Flow.write_savedText]
    obtain ⟨left, ⟨-, -, ran, contains⟩ | ⟨-, ⟨fault, ran⟩, contains⟩⟩ :=
      update_cases stores.contains valid id written
    · rw [ran]
      exact ⟨_, stores.insert fine contains⟩
    · rw [ran]
      exact ⟨flows, contains, stores.good⟩

theorem Stores.after_delete (stores : collection.Stores good disk flows) :
    ∃ kept, collection.Stores good ((collection.delete name).run disk).2 kept := by
  cases valid : isName name with
  | false =>
    rw [delete_of_not_isName valid]
    exact ⟨flows, stores⟩
  | true =>
    cases absent : (flows.map Flow.savedText).get? name with
    | some text =>
      have present : ((flows.map Flow.savedText).get? name).isSome := by simp [absent]
      obtain ⟨left, ran, contains⟩ := delete_present stores.contains present
      rw [ran]
      exact ⟨_, stores.erase contains⟩
    | none =>
      rw [delete_unbound stores.contains valid absent]
      exact ⟨flows, stores⟩

end Keeping

namespace Command

/-- The files answer a command as the map does, and are then those of what it makes of the map; a
command that fails leaves them as they are. -/
structure Follows (command : Command) (collection : Collection) (disk : Disk)
    (flows : Dict (Option Flow)) : Prop where
  reply : ((command.task collection).run disk).1 = (command.onMap collection flows).1
  stores : collection.Stores Flow.Savable ((command.task collection).run disk).2
    (command.onMap collection flows).2
  kept : ∀ e, (command.onMap collection flows).1 = .error e →
    ((command.task collection).run disk).2 = disk

theorem follows_of_run {command : Command} {reply : Except FlowError Reply}
    {kept : Dict (Option Flow)} {left : Disk}
    (ran : (command.task collection).run disk = (reply, left))
    (meant : command.onMap collection flows = (reply, kept))
    (stores : collection.Stores Flow.Savable left kept)
    (same : ∀ e, reply = .error e → left = disk) :
    command.Follows collection disk flows := by
  constructor
  · rw [ran, meant]
  · rw [ran, meant]
    exact stores
  · rw [ran, meant]
    exact same

theorem follows_of_done {command : Command} {reply : Reply} {kept : Dict (Option Flow)}
    {left : Disk} (ran : (command.task collection).run disk = (.ok reply, left))
    (meant : command.onMap collection flows = (.ok reply, kept))
    (stores : collection.Stores Flow.Savable left kept) :
    command.Follows collection disk flows :=
  follows_of_run ran meant stores nofun

theorem follows_of_not_isName {command : Command} {name : String}
    (named : command.name? = some name) (invalid : isName name = false)
    (stores : collection.Stores Flow.Savable disk flows) :
    command.Follows collection disk flows := by
  have refused : (command.task collection).run disk = (.error (.invalidName name), disk) := by
    cases command with
    | create name flow =>
      cases named
      exact FileTask.run_bind_of_error (create_of_not_isName invalid disk) _
    | update name flow id =>
      cases named
      exact FileTask.run_bind_of_error (update_of_not_isName invalid id disk) _
    | read name =>
      cases named
      exact FileTask.run_bind_of_error (read_of_not_isName invalid disk) _
    | delete name =>
      cases named
      exact FileTask.run_bind_of_error (delete_of_not_isName invalid disk) _
    | list => cases named
  refine follows_of_run refused ?_ stores (fun _ _ => rfl)
  simp [onMap, named, checkName, invalid]

end Command

section Valid

variable {name : String} {flow : Option Flow} {id : RunId}

theorem Stores.create (stores : collection.Stores Flow.Savable disk flows)
    (standard : collection.registry = .standard) (valid : isName name = true)
    (admitted : (Command.create name flow).Admitted collection disk.limits) :
    (Command.create name flow).Follows collection disk flows := by
  obtain ⟨savable, holds⟩ := admitted
  have written : collection.registry.write flow = .ok (Flow.savedText flow) := by
    rw [standard, Flow.write_savedText]
  have bound := get?_savedTexts flows name
  cases found : flows.get? name with
  | some loaded =>
    have meant : (Command.create name flow).onMap collection flows =
        (.error (.disk .alreadyExists), flows) := by
      simp [Command.onMap, Command.name?, checkName, valid, Dict.contains, found]
    have present : ((flows.map Flow.savedText).get? name).isSome := by simp [bound, found]
    have ran := create_present stores.contains written present
    exact Command.follows_of_run (FileTask.run_bind_of_error ran _) meant stores fun _ _ => rfl
  | none =>
    have meant : (Command.create name flow).onMap collection flows =
        (.ok (.placed (collection.place name)), flows.insert name flow) := by
      simp [Command.onMap, Command.name?, checkName, valid, Dict.contains, found]
    obtain ⟨left, ran, contains⟩ :=
      create_new stores.contains valid (holds valid) written (by simp [bound, found])
    exact Command.follows_of_done (FileTask.run_bind_of_ok ran _) meant
      (stores.insert savable contains)

theorem Stores.update {flow : Flow} (stores : collection.Stores Flow.Savable disk flows)
    (standard : collection.registry = .standard) (valid : isName name = true)
    (admitted : (Command.update name flow id).Admitted collection disk.limits) :
    (Command.update name flow id).Follows collection disk flows := by
  obtain ⟨savable, holds⟩ := admitted
  have written : collection.registry.write (some flow) = .ok (Flow.savedText (some flow)) := by
    rw [standard, Flow.write_savedText]
  have meant : (Command.update name flow id).onMap collection flows =
      (.ok (.placed (collection.place name)), flows.insert name (some flow)) := by
    simp [Command.onMap, Command.name?, checkName, valid]
  obtain ⟨left, ⟨-, -, ran, contains⟩ | ⟨unheld, -⟩⟩ :=
    update_cases stores.contains valid id written
  · exact Command.follows_of_done (FileTask.run_bind_of_ok ran _) meant
      (stores.insert savable contains)
  · exact absurd (holds valid) unheld

theorem Stores.read (stores : collection.Stores Flow.Savable disk flows)
    (standard : collection.registry = .standard) (valid : isName name = true)
    (admitted : (Command.read name).Admitted collection disk.limits) :
    (Command.read name).Follows collection disk flows := by
  have bound := get?_savedTexts flows name
  cases found : flows.get? name with
  | some loaded =>
    have meant : (Command.read name).onMap collection flows = (.ok (.loaded loaded), flows) := by
      simp [Command.onMap, Command.name?, checkName, valid, found]
    have ran := read_present stores.contains (bound.trans (by rw [found]; rfl))
    rw [standard, (stores.good name loaded found).read_savedText] at ran
    exact Command.follows_of_run (FileTask.run_bind_of_ok ran _) meant stores fun _ _ => rfl
  | none =>
    have meant : (Command.read name).onMap collection flows =
        (.error (.disk .notFound), flows) := by
      simp [Command.onMap, Command.name?, checkName, valid, found]
    have ran := read_absent stores.contains valid (admitted valid) (by simp [bound, found])
    exact Command.follows_of_run (FileTask.run_bind_of_error ran _) meant stores fun _ _ => rfl

theorem Stores.delete (stores : collection.Stores Flow.Savable disk flows)
    (valid : isName name = true) (admitted : (Command.delete name).Admitted collection disk.limits) :
    (Command.delete name).Follows collection disk flows := by
  have bound := get?_savedTexts flows name
  have meant : (Command.delete name).onMap collection flows =
      (.ok (.deleted (flows.contains name)), flows.erase name) := by
    simp [Command.onMap, Command.name?, checkName, valid]
  cases found : flows.get? name with
  | some loaded =>
    have present : ((flows.map Flow.savedText).get? name).isSome := by simp [bound, found]
    have contained : flows.contains name = true := by simp [Dict.contains, found]
    obtain ⟨left, ran, contains⟩ := delete_present stores.contains present
    rw [← contained] at ran
    exact Command.follows_of_done (FileTask.run_bind_of_ok ran _) meant (stores.erase contains)
  | none =>
    have ran := delete_absent stores.contains valid (admitted valid) (by simp [bound, found])
    have absent : flows.contains name = false := by simp [Dict.contains, found]
    rw [← absent] at ran
    refine Command.follows_of_done (FileTask.run_bind_of_ok ran _) meant ?_
    rwa [Dict.erase_of_absent found]

theorem Stores.list (stores : collection.Stores Flow.Savable disk flows) :
    Command.list.Follows collection disk flows := by
  have ran := list_eq stores.contains
  rw [Dict.keys_map] at ran
  exact Command.follows_of_done (FileTask.run_bind_of_ok ran _) rfl stores

end Valid

/-- One command does to the files what it does to the map. -/
theorem Stores.follows (stores : collection.Stores Flow.Savable disk flows)
    (standard : collection.registry = .standard) {command : Command}
    (admitted : command.Admitted collection disk.limits) : command.Follows collection disk flows := by
  cases named : command.name? with
  | none =>
    cases command with
    | list => exact stores.list
    | create | update | read | delete => cases named
  | some name =>
    cases valid : isName name with
    | false => exact Command.follows_of_not_isName named valid stores
    | true =>
      cases command with
      | create => cases named; exact stores.create standard valid admitted
      | update => cases named; exact stores.update standard valid admitted
      | read => cases named; exact stores.read standard valid admitted
      | delete => cases named; exact stores.delete valid admitted
      | list => cases named

def carryOut (collection : Collection) :
    List Command → Disk → List (Except FlowError Reply) × Disk
  | [], disk => ([], disk)
  | command :: later, disk =>
    let (reply, disk) := (command.task collection).run disk
    let (replies, disk) := carryOut collection later disk
    (reply :: replies, disk)

/-- What commands do to a map, one after the other. -/
def carryOutOnMap (collection : Collection) :
    List Command → Dict (Option Flow) → List (Except FlowError Reply) × Dict (Option Flow)
  | [], flows => ([], flows)
  | command :: later, flows =>
    let (reply, flows) := command.onMap collection flows
    let (replies, flows) := carryOutOnMap collection later flows
    (reply :: replies, flows)

theorem limits_carryOut (commands : List Command) (disk : Disk) :
    (collection.carryOut commands disk).2.limits = disk.limits := by
  induction commands generalizing disk with
  | nil => rfl
  | cons command later ih => exact (ih _).trans (FileTask.limits_run (command.task collection) disk)

theorem Stores.carryOut (standard : collection.registry = .standard) {commands : List Command}
    (admitted : ∀ command ∈ commands, command.Admitted collection disk.limits)
    (stores : collection.Stores Flow.Savable disk flows) :
    (collection.carryOut commands disk).1 = (collection.carryOutOnMap commands flows).1 ∧
      collection.Stores Flow.Savable (collection.carryOut commands disk).2
        (collection.carryOutOnMap commands flows).2 := by
  induction commands generalizing disk flows with
  | nil => exact ⟨rfl, stores⟩
  | cons command later ih =>
    obtain ⟨first, rest⟩ := List.forall_mem_cons.mp admitted
    have follows := stores.follows standard first
    have limits := FileTask.limits_run (command.task collection) disk
    obtain ⟨replies, kept⟩ := ih (limits ▸ rest) follows.stores
    constructor
    · exact congrArg₂ List.cons follows.reply replies
    · exact kept

theorem Command.get?_onMap_of_ne {command : Command} {other : String}
    (apart : command.name? ≠ some other) (flows : Dict (Option Flow)) :
    (command.onMap collection flows).2.get? other = flows.get? other := by
  have apart (name : String) (named : command.name? = some name) : name ≠ other := by
    rintro rfl
    exact apart named
  unfold Command.onMap
  split
  · rfl
  · cases command with
    | create name flow =>
      dsimp only
      split
      · rfl
      · rw [Dict.get?_insert, if_neg (apart name rfl)]
    | update name flow id => rw [Dict.get?_insert, if_neg (apart name rfl)]
    | read name =>
      dsimp only
      split <;> rfl
    | delete name => rw [Dict.get?_erase, if_neg (apart name rfl).symm]
    | list => rfl

/-- A collection that was empty or not there at first is a map from names to flows: whatever
commands are carried out, each is answered as the map answers it. What is done next fails exactly
where the map says so, and then changes nothing; it changes the file of no other name, and a listing
gives the names that are bound, in order and each once. -/
theorem carryOut_eq_onMap (standard : collection.registry = .standard)
    (vacant : collection.Vacant disk) {commands : List Command}
    (admitted : ∀ command ∈ commands, command.Admitted collection disk.limits) :
    let left := (collection.carryOut commands disk).2
    let kept := (collection.carryOutOnMap commands ∅).2
    (collection.carryOut commands disk).1 = (collection.carryOutOnMap commands ∅).1 ∧
      (∀ name, name ≠ "" → left.get? (collection.place name) =
        (kept.get? name).map fun loaded => .file (bytesOf (Flow.savedText loaded).toList)) ∧
      (∀ next : Command, next.Admitted collection disk.limits →
        ((next.task collection).run left).1 = (next.onMap collection kept).1 ∧
          (∀ e, ((next.task collection).run left).1 = .error e →
            ((next.task collection).run left).2 = left) ∧
          ∀ other, other ≠ "" → next.name? ≠ some other →
            ((next.task collection).run left).2.get? (collection.place other) =
              left.get? (collection.place other)) ∧
      ∃ names, collection.list.run left = (.ok names, left) ∧ names.Pairwise (· < ·) ∧
        ∀ name, name ∈ names ↔ (kept.get? name).isSome := by
  intro left kept
  obtain ⟨replies, stores⟩ := vacant.stores.carryOut standard admitted
  refine ⟨replies, stores.get?_place, ?_, kept.keys, ?_, kept.keys_ascending,
    kept.mem_keys_iff⟩
  · intro next allowed
    rw [← limits_carryOut commands disk] at allowed
    have follows := stores.follows standard allowed
    refine ⟨follows.reply, ?_, ?_⟩
    · intro e failed
      exact follows.kept e (follows.reply.symm.trans failed)
    · intro other solid apart
      rw [follows.stores.get?_place other solid, stores.get?_place other solid,
        Command.get?_onMap_of_ne apart]
  · have listed := list_eq stores.contains
    rwa [Dict.keys_map] at listed

def pausing : Flow := ⟨[⟨"pause", .delay 5, {}⟩], []⟩

theorem savable_pausing : Flow.Savable (some pausing) := by
  constructor
  · rintro flow ⟨⟩
    constructor <;> simp [pausing, Flow.Free, reservedNodeKeys, Dict.get?_empty]
  · have written : Flow.document (some pausing) =
        .object [("edges", .array []),
          ("nodes", .array [.object [("data", .object [("delay", .whole (.ofUInt64 5))]),
            ("id", .string "pause"), ("type", .string "delayNode")]])] := by rfl
    rw [written]
    constructor
    · simp only [Value.Ordered, Value.OrderedItems, Value.OrderedFields, Value.whole]
      decide
    · decide
    · simp [Value.doubles, Value.doublesFields, Value.doublesItems, Value.whole]

def shelf : Collection := ⟨["flows"], .standard⟩

theorem vacant_shelf : shelf.Vacant ∅ := by
  constructor
  · refine ⟨by decide +kernel, ?_⟩
    intro step _
    by_cases start : step = []
    · exact .inr (if_pos start)
    · exact .inl (Disk.get?_of_ne start)
  · intro rest some
    rw [Disk.get?_of_ne (by simp [shelf])]
    rfl

def shelfCommands : List Command :=
  [.create "login" none, .create "login" (some pausing), .update "smoke.flow" pausing (.ofNat 7),
    .read "smoke.flow", .delete "login", .create "../smoke" none, .list]

theorem shelf_carried_out :
    shelf.Vacant ∅ ∧ (∀ command ∈ shelfCommands, command.Admitted shelf {}) ∧
      (shelf.carryOut shelfCommands ∅).1 =
        [.ok (.placed ["flows", "login.flow"]), .error (.disk .alreadyExists),
          .ok (.placed ["flows", "smoke.flow.flow"]), .ok (.loaded (some pausing)),
          .ok (.deleted true), .error (.invalidName "../smoke"), .ok (.names ["smoke.flow"])] := by
  have admitted : ∀ command ∈ shelfCommands, command.Admitted shelf {} := by
    have savable_none : Flow.Savable none :=
      ⟨nofun, Value.fits_object_iff.mpr ⟨.nil, nofun⟩⟩
    have login : PathLimits.Holds {} (shelf.place "login") := by decide +kernel
    have smoke : PathLimits.Holds {} (shelf.place "smoke.flow") := by decide +kernel
    have draft : PathLimits.Holds {} (draft (shelf.place "smoke.flow") (.ofNat 7)) := by decide +kernel
    simp [shelfCommands, Command.Admitted, savable_none, savable_pausing, login, smoke, draft]
    decide
  exact ⟨vacant_shelf, admitted,
    (carryOut_eq_onMap rfl vacant_shelf admitted).1.trans (by rfl)⟩

end Collection

end Scenario
