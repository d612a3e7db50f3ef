import Scenario.Proofs.Collection.Map
import Scenario.Proofs.Workshop
/-!
Commands side by side.

Commands are carried out at the same time, each as the sequence of its calls. A draft is written by
nobody but the command whose draft it is, and a file that is put in its place is complete. A flow
that is created is written in its place, by the one worker that has its file open.
`Orderly.of_reachable` says what that comes to: whatever stands in the place of a flow is complete,
or somebody is writing it there.
-/
namespace Scenario

open Relation (ReflTransGen)

namespace Disk

variable {path : Path} {disk left : Disk}

theorem Spares.opens (spares : Spares path disk left) (limits : left.limits = disk.limits)
    (opens : disk.Opens path) : left.Opens path := by
  refine ⟨by rw [Holds, limits]; exact opens.holds, fun step before => ?_⟩
  rcases spares step with same | ⟨-, -, made⟩
  · rw [same]
    exact opens.clear step before
  · exact .inr made

theorem Spares.child {file : String} (spares : Spares path disk left) :
    left.get? (path ++ [file]) = disk.get? (path ++ [file]) := by
  rcases spares (path ++ [file]) with same | ⟨before, -⟩
  · exact same
  · exact absurd before not_prefix_parent

end Disk

namespace Call

variable {disk left : Disk} {changed : Except DiskFault Disk}

theorem changed_of_ok {answer : Unit} (ran : change disk changed = (.ok answer, left)) :
    changed = .ok left := by
  rcases change_cases ran with ⟨fault, _, failed, _⟩ | ⟨done, -⟩
  · cases failed
  · exact done

theorem unchanged_of_error {fault : DiskFault} (ran : change disk changed = (.error fault, left)) :
    left = disk := by
  rcases change_cases ran with ⟨-, -, -, same⟩ | ⟨-, done⟩
  · exact same
  · cases done

end Call

namespace Collection

def contentOf (loaded : Option Flow) : List UInt8 := bytesOf (Flow.savedText loaded).toList

namespace Command

/-- The command stores a flow under a name. -/
def Gives (command : Command) (name : String) (loaded : Option Flow) : Prop :=
  match command with
  | .create own flow => own = name ∧ flow = loaded
  | .update own flow _ => own = name ∧ some flow = loaded
  | .read _ | .delete _ | .list => False

def draft? (collection : Collection) : Command → Option Path
  | .update name _ id => some (draft (collection.place name) id)
  | .create .. | .read _ | .delete _ | .list => none

def program (collection : Collection) (command : Command) :
    Program (Except FlowError Reply) :=
  ExceptT.run (command.task collection)

end Command

/-- The text was there at first, or it is that of a flow that some command stores under the name. -/
def Whole (texts : Dict String) (commands : List Command) (name text : String) : Prop :=
  texts.get? name = some text ∨
    ∃ command ∈ commands, ∃ loaded, command.Gives name loaded ∧ text = Flow.savedText loaded

def employ (collection : Collection) (commands : List Command) (disk : Disk) :
    Workshop (Except FlowError Reply) :=
  .start disk (commands.map (·.program collection))

/-- What the next call of a worker relies on: a file that it has opened for a new flow, or a draft
that it has written. -/
inductive Hand where
  | empty
  | opened (name : String) (loaded : Option Flow)
  | drafted (path : Path) (bytes : List UInt8)

def Hand.Fits (collection : Collection) (hand : Hand) (file : Option Path) (disk : Disk) : Prop :=
  match hand with
  | .empty => file = none
  | .opened name loaded => file = none ∨ file = some (collection.place name) ∧
      ∃ part, part <+: contentOf loaded ∧ disk.get? (collection.place name) = some (.file part)
  | .drafted path bytes => file = none ∧ disk.get? path = some (.file bytes)

/-- A program that changes flow files only as its command says: it opens a new one and fills it, or
puts a complete draft of its own in its place, or removes it. -/
inductive Careful (collection : Collection) (command : Command) {α : Type} :
    Hand → Program α → Prop where
  | done (result : α) : Careful collection command .empty (.done result)
  | makes {next : Except DiskFault Unit → Program α}
    (later : ∀ answer, Careful collection command .empty (next answer)) :
    Careful collection command .empty (.call (.makeDirectories collection.root) next)
  | reads {path : Path} {next : Except DiskFault (List UInt8) → Program α}
    (later : ∀ answer, Careful collection command .empty (next answer)) :
    Careful collection command .empty (.call (.read path) next)
  | lists {path : Path} {next : Except DiskFault (List String) → Program α}
    (later : ∀ answer, Careful collection command .empty (next answer)) :
    Careful collection command .empty (.call (.list path) next)
  | deletes {name : String} {next : Except DiskFault Unit → Program α}
    (later : ∀ answer, Careful collection command .empty (next answer)) :
    Careful collection command .empty (.call (.remove (collection.place name)) next)
  | creates {name : String} {loaded : Option Flow} {next : Except DiskFault Unit → Program α}
    (asked : command = .create name loaded)
    (opened : Careful collection command (.opened name loaded) (next (.ok ())))
    (refused : ∀ fault, Careful collection command .empty (next (.error fault))) :
    Careful collection command .empty (.call (.createNew (collection.place name)) next)
  | fills {name : String} {loaded : Option Flow} {next : Except DiskFault Unit → Program α}
    (asked : command = .create name loaded)
    (later : ∀ answer, Careful collection command .empty (next answer)) :
    Careful collection command (.opened name loaded)
      (.call (.fill (collection.place name) (contentOf loaded)) next)
  | drafts {path : Path} {bytes : List UInt8} {next : Except DiskFault Unit → Program α}
    (own : command.draft? collection = some path)
    (drafted : Careful collection command (.drafted path bytes) (next (.ok ())))
    (failed : ∀ fault, Careful collection command .empty (next (.error fault))) :
    Careful collection command .empty (.call (.write path bytes) next)
  | clears {path : Path} {next : Except DiskFault Unit → Program α}
    (own : command.draft? collection = some path)
    (later : ∀ answer, Careful collection command .empty (next answer)) :
    Careful collection command .empty (.call (.remove path) next)
  | replaces {name : String} {flow : Flow} {id : RunId}
    {next : Except DiskFault Unit → Program α} (asked : command = .update name flow id)
    (later : ∀ answer, Careful collection command .empty (next answer)) :
    Careful collection command (.drafted (draft (collection.place name) id) (contentOf (some flow)))
      (.call (.rename (draft (collection.place name) id) (collection.place name)) next)

section Commands

variable {collection : Collection}

theorem careful_create (standard : collection.registry = .standard) (name : String)
    (loaded : Option Flow) :
    collection.Careful (.create name loaded) .empty
      ((Command.create name loaded).program collection) := by
  have written : collection.registry.write loaded = .ok (Flow.savedText loaded) := by
    rw [standard, Flow.write_savedText]
  rw [Command.program, Command.task, create]
  cases valid : isName name with
  | false =>
    rw [flowPath_of_not_isName valid]
    exact .done _
  | true =>
    rw [flowPath_of_isName valid, written]
    refine .makes fun answer => ?_
    cases answer with
    | error fault => exact .done _
    | ok =>
      refine .creates rfl ?_ fun fault => .done _
      refine .fills rfl fun answer => ?_
      cases answer <;> exact .done _

theorem careful_update (standard : collection.registry = .standard) (name : String) (flow : Flow)
    (id : RunId) :
    collection.Careful (.update name flow id) .empty
      ((Command.update name flow id).program collection) := by
  have written : collection.registry.write (some flow) = .ok (Flow.savedText (some flow)) := by
    rw [standard, Flow.write_savedText]
  rw [Command.program, Command.task, update]
  cases valid : isName name with
  | false =>
    rw [flowPath_of_not_isName valid]
    exact .done _
  | true =>
    rw [flowPath_of_isName valid, written]
    have cleared (fault : DiskFault) : collection.Careful (.update name flow id) .empty
        (ExceptT.run (do
          let _ ← FileTask.attempt (.remove (draft (collection.place name) id))
          throw (.disk fault) : FileTask Reply)) := .clears rfl fun _ => .done _
    refine .makes fun answer => ?_
    cases answer with
    | error fault => exact .done _
    | ok =>
      refine .drafts rfl (.replaces rfl fun answer => ?_) fun fault => cleared fault
      cases answer with
      | error fault => exact cleared fault
      | ok => exact .done _

theorem careful_delete (name : String) : collection.Careful (.delete name) .empty
    ((Command.delete name).program collection) := by
  rw [Command.program, Command.task, delete]
  cases valid : isName name with
  | false =>
    rw [flowPath_of_not_isName valid]
    exact .done _
  | true =>
    rw [flowPath_of_isName valid]
    refine .deletes fun answer => ?_
    cases answer with
    | ok => exact .done _
    | error fault => cases fault <;> exact .done _

theorem careful_list : collection.Careful .list .empty (Command.list.program collection) := by
  refine .lists fun answer => ?_
  cases answer with
  | ok names => exact .done _
  | error fault => cases fault <;> exact .done _

theorem exists_done_bind {α β : Type} {program : Program α} {next : α → Program β}
    (first : ∃ a, program = .done a) (rest : ∀ a, ∃ b, next a = .done b) :
    ∃ b, program >>= next = .done b := by
  obtain ⟨a, rfl⟩ := first
  exact rest a

/-- Reading a flow is one call, and the reply depends on its answer alone. -/
theorem read_program (collection : Collection) {name : String} (valid : isName name = true) :
    ∃ next, (Command.read name).program collection = .call (.read (collection.place name)) next ∧
      ∀ answer, ∃ reply, next answer = .done reply := by
  rw [Command.program, Command.task, read, flowPath_of_isName valid]
  refine ⟨_, rfl, fun answer => ?_⟩
  cases answer with
  | error fault => exact ⟨_, rfl⟩
  | ok bytes =>
    refine exists_done_bind (exists_done_bind (exists_done_bind ⟨_, rfl⟩ ?_) ?_) ?_
    · rintro (_ | bytes)
      · exact ⟨_, rfl⟩
      · dsimp only [ExceptT.bindCont]
        split <;> exact ⟨_, rfl⟩
    · rintro (_ | text) <;> exact ⟨_, rfl⟩
    · rintro (_ | loaded) <;> exact ⟨_, rfl⟩

theorem careful_read (name : String) : collection.Careful (.read name) .empty
    ((Command.read name).program collection) := by
  cases valid : isName name with
  | false =>
    rw [Command.program, Command.task, read, flowPath_of_not_isName valid]
    exact .done _
  | true =>
    obtain ⟨next, same, replies⟩ := read_program collection valid
    rw [same]
    refine .reads fun answer => ?_
    obtain ⟨reply, ended⟩ := replies answer
    rw [ended]
    exact .done reply

theorem careful_program (standard : collection.registry = .standard) (command : Command) :
    collection.Careful command .empty (command.program collection) := by
  cases command with
  | create name loaded => exact careful_create standard name loaded
  | update name flow id => exact careful_update standard name flow id
  | read name => exact careful_read name
  | delete name => exact careful_delete name
  | list => exact careful_list

end Commands

/-- Somebody has opened the file of a new flow, which is not yet filled, and this much of it has been
written. -/
def Writes (collection : Collection) (commands : List Command)
    (shop : Workshop (Except FlowError Reply)) (name : String) (part : List UInt8) : Prop :=
  ∃ (i : Nat) (loaded : Option Flow) (next : _), commands[i]? = some (.create name loaded) ∧
    shop.workers[i]? = some ⟨.call (.fill (collection.place name) (contentOf loaded)) next,
      some (collection.place name)⟩ ∧ part <+: contentOf loaded

/-- What stands in the places of the flows, and how far the workers have come. -/
structure Orderly (collection : Collection) (texts : Dict String) (commands : List Command)
    (shop : Workshop (Except FlowError Reply)) : Prop where
  opens : shop.disk.Opens collection.root
  workers : ∀ (i : Nat) worker, shop.workers[i]? = some worker → ∃ command hand,
    commands[i]? = some command ∧ collection.Careful command hand worker.program ∧
      hand.Fits collection worker.file shop.disk
  /-- No two workers have the same file open. -/
  apart : ∀ (i j : Nat) worker other path, shop.workers[i]? = some worker →
    shop.workers[j]? = some other → worker.file = some path → other.file = some path → i = j
  whole : ∀ name file, name ≠ "" → shop.disk.get? (collection.place name) = some file →
    (∃ text, Whole texts commands name text ∧ file = .file (bytesOf text.toList)) ∨
      ∃ part, file = .file part ∧ collection.Writes commands shop name part

/-- No two commands have the same draft. -/
def Apart (collection : Collection) (commands : List Command) : Prop :=
  ∀ (i j : Nat) one other path, commands[i]? = some one → commands[j]? = some other →
    one.draft? collection = some path → other.draft? collection = some path → i = j

section Moves

variable {collection : Collection} {texts : Dict String} {commands : List Command}
  {shop : Workshop (Except FlowError Reply)} {left : Disk} {i : Nat} {command : Command}

theorem getElem?_set_of {α : Type _} {items : List α} {i : Nat} {item : α}
    (here : items[i]? = some item) (new : α) (j : Nat) :
    (items.set i new)[j]? = if j = i then some new else items[j]? := by
  have bound : i < items.length := (List.getElem?_eq_some_iff.mp here).1
  rw [List.getElem?_set]
  by_cases same : i = j
  · subst same
    simp [bound]
  · simp [same, Ne.symm same]

theorem Careful.draft_eq {α : Type} {path : Path} {bytes : List UInt8} {program : Program α}
    (careful : collection.Careful command (.drafted path bytes) program) :
    command.draft? collection = some path := by
  cases careful with
  | replaces asked => rw [asked]; rfl

theorem place_ne_draft {name : String} {path : Path} (own : command.draft? collection = some path) :
    collection.place name ≠ path := by
  cases command with
  | update other flow id =>
    cases own
    rw [draft_place, place, ne_eq, List.append_cancel_left_eq]
    exact fun same => draftName_ne other id name (List.cons.inj same).1.symm
  | create | read | delete | list => cases own

/-- What a worker relies on stands as long as its own file and its own draft do. -/
theorem Hand.Fits.kept {hand : Hand} {file : Option Path} {disk : Disk}
    (fits : hand.Fits collection file disk)
    (places : ∀ name, file = some (collection.place name) →
      left.get? (collection.place name) = disk.get? (collection.place name))
    (drafts : ∀ path bytes, hand = .drafted path bytes → disk.get? path = some (.file bytes) →
      left.get? path = some (.file bytes)) : hand.Fits collection file left := by
  cases hand with
  | empty => exact fits
  | opened name loaded =>
    refine fits.imp_right fun ⟨held, part, start, stands⟩ => ⟨held, part, start, ?_⟩
    exact (places name held).trans stands
  | drafted path bytes => exact ⟨fits.1, drafts path bytes rfl fits.2⟩

theorem Hand.Fits.of_open {hand : Hand} {path : Path} {disk : Disk}
    (fits : hand.Fits collection (some path) disk) :
    ∃ name part, path = collection.place name ∧ disk.get? path = some (.file part) := by
  cases hand with
  | empty => cases fits
  | opened name loaded =>
    rcases fits with closed | ⟨opened, part, -, stands⟩
    · cases closed
    · cases opened
      exact ⟨name, part, rfl, stands⟩
  | drafted path bytes => cases fits.1

/-- A worker that closes its file, if it has one, has written all of it. -/
theorem Orderly.advanced (orderly : collection.Orderly texts commands shop)
    {worker : Worker (Except FlowError Reply)} {program : Program (Except FlowError Reply)}
    {hand : Hand} (here : shop.workers[i]? = some worker) (asked : commands[i]? = some command)
    (careful : collection.Careful command hand program)
    (fits : hand.Fits collection none shop.disk)
    (wrote : ∀ name, worker.file = some (collection.place name) →
      ∃ text, Whole texts commands name text ∧
        shop.disk.get? (collection.place name) = some (.file (bytesOf text.toList))) :
    collection.Orderly texts commands ⟨shop.disk, shop.workers.set i ⟨program, none⟩⟩ where
  opens := orderly.opens
  workers j other found := by
    rw [getElem?_set_of here] at found
    split at found
    · rename_i same
      cases found
      exact ⟨command, hand, same ▸ asked, careful, fits⟩
    · exact orderly.workers j other found
  apart j k first second path one two opened shared := by
    rw [getElem?_set_of here] at one two
    split at one
    · cases one
      cases opened
    · split at two
      · cases two
        cases shared
      · exact orderly.apart j k first second path one two opened shared
  whole name file solid stands := by
    -- If it was this worker that wrote there, it has closed the file and the file is complete.
    rcases orderly.whole name file solid stands with complete | ⟨part, same, j, loaded, next, writes⟩
    · exact .inl complete
    · obtain ⟨creates, found, start⟩ := writes
      by_cases own : j = i
      · subst own
        cases here.symm.trans found
        obtain ⟨text, whole, full⟩ := wrote name rfl
        exact .inl ⟨text, whole, Option.some.inj (stands.symm.trans full)⟩
      · refine .inr ⟨part, same, j, loaded, next, creates, ?_, start⟩
        rw [getElem?_set_of here, if_neg own]
        exact found

/-- A worker that has opened no file goes on. -/
theorem Orderly.onward (orderly : collection.Orderly texts commands shop)
    {was program : Program (Except FlowError Reply)} {hand : Hand}
    (here : shop.workers[i]? = some ⟨was, none⟩) (asked : commands[i]? = some command)
    (careful : collection.Careful command hand program)
    (fits : hand.Fits collection none shop.disk) :
    collection.Orderly texts commands ⟨shop.disk, shop.workers.set i ⟨program, none⟩⟩ :=
  orderly.advanced here asked careful fits fun _ opened => by cases opened

/-- What is done to a draft concerns no other command. -/
theorem Orderly.aside (orderly : collection.Orderly texts commands shop)
    (drafts : collection.Apart commands)
    {program : Program (Except FlowError Reply)} {path : Path}
    (here : shop.workers[i]? = some ⟨program, none⟩) (asked : commands[i]? = some command)
    (careful : collection.Careful command .empty program)
    (own : command.draft? collection = some path) (same : shop.disk.SameBut path left) :
    collection.Orderly texts commands ⟨left, shop.workers⟩ where
  opens := by
    cases command with
    | update name flow id =>
      cases own
      rw [draft_place] at same
      exact same.opens orderly.opens
    | create | read | delete | list => cases own
  workers j worker found := by
    obtain ⟨other, hand, ordered, proceeds, fits⟩ := orderly.workers j worker found
    by_cases mine : j = i
    · subst mine
      cases here.symm.trans found
      exact ⟨command, .empty, asked, careful, rfl⟩
    have stays (file : String) :
        left.get? (collection.place file) = shop.disk.get? (collection.place file) :=
      same.stands _ (place_ne_draft own)
    refine ⟨other, hand, ordered, proceeds, fits.kept (fun _ _ => stays _) ?_⟩
    rintro draft bytes rfl stands
    rw [same.stands]
    · exact stands
    · rintro rfl
      exact mine (drafts j i other command draft ordered asked proceeds.draft_eq own)
  apart := orderly.apart
  whole name file solid stands := by
    rw [same.stands _ (place_ne_draft own)] at stands
    exact orderly.whole name file solid stands

theorem Orderly.made (orderly : collection.Orderly texts commands shop)
    {answer : Except DiskFault Unit}
    (goes : (Call.makeDirectories collection.root).Goes shop.disk answer left) :
    collection.Orderly texts commands ⟨left, shop.workers⟩ := by
  have spares := Call.spares_of_makeDirectories goes
  refine ⟨spares.opens (Call.limits_of_goes goes) orderly.opens, fun j worker found => ?_,
    orderly.apart, fun name file solid stands => ?_⟩
  · obtain ⟨command, hand, ordered, proceeds, fits⟩ := orderly.workers j worker found
    exact ⟨command, hand, ordered, proceeds, fits.kept (fun _ _ => spares.child)
      fun path bytes _ stands => (spares.file_iff path bytes).mpr stands⟩
  · dsimp only at stands
    rw [place, spares.child] at stands
    exact orderly.whole name file solid stands

/-- A place that is emptied, or taken by a complete file, is lost to whoever had its file open. -/
theorem Orderly.exchanged (orderly : collection.Orderly texts commands shop) {name : String}
    (same : shop.disk.SameBut (collection.place name) left)
    (complete : ∀ file, left.get? (collection.place name) = some file →
      ∃ text, Whole texts commands name text ∧ file = .file (bytesOf text.toList)) :
    collection.Orderly texts commands
      ⟨left, shop.workers.map (·.displaced (.remove (collection.place name)))⟩ where
  opens := same.opens orderly.opens
  workers j worker found := by
    rw [List.getElem?_map, Option.map_eq_some_iff] at found
    obtain ⟨before, found, rfl⟩ := found
    obtain ⟨command, hand, ordered, proceeds, fits⟩ := orderly.workers j before found
    refine ⟨command, hand, ordered, proceeds, ?_⟩
    cases hand with
    | empty =>
      have closed : before.file = none := fits
      simp [Worker.displaced, Call.displace, closed, Hand.Fits]
    | opened other loaded =>
      rcases fits with closed | ⟨opened, part, start, stands⟩
      · exact .inl (by simp [Worker.displaced, Call.displace, closed])
      · by_cases lost : other = name
        · exact .inl (by simp [Worker.displaced, Call.displace, opened, lost])
        · have elsewhere : collection.place other ≠ collection.place name :=
            fun equal => lost (place_inj.mp equal)
          refine .inr ⟨by simp [Worker.displaced, Call.displace, opened, elsewhere], part, start, ?_⟩
          rw [same.stands _ elsewhere]
          exact stands
    | drafted path bytes =>
      obtain ⟨closed, stands⟩ := fits
      refine ⟨by simp [Worker.displaced, Call.displace, closed], ?_⟩
      rw [same.stands _ (place_ne_draft proceeds.draft_eq).symm]
      exact stands
  apart j k first second path one two opened shared := by
    rw [List.getElem?_map, Option.map_eq_some_iff] at one two
    obtain ⟨before, one, rfl⟩ := one
    obtain ⟨other, two, rfl⟩ := two
    simp only [Worker.displaced, Call.displace] at opened shared
    split at opened
    · cases opened
    · split at shared
      · cases shared
      · exact orderly.apart j k before other path one two opened shared
  whole other file solid stands := by
    by_cases here : other = name
    · subst here
      exact .inl (complete file stands)
    have elsewhere : collection.place other ≠ collection.place name :=
      fun equal => here (place_inj.mp equal)
    rw [same.stands _ elsewhere] at stands
    rcases orderly.whole other file solid stands with given | ⟨part, equal, j, loaded, next, writes⟩
    · exact .inl given
    · obtain ⟨creates, found, start⟩ := writes
      refine .inr ⟨part, equal, j, loaded, next, creates, ?_, start⟩
      rw [List.getElem?_map, found]
      simp [Worker.displaced, Call.displace, elsewhere]

/-- The file of a new flow is filled by the worker that has it open. -/
theorem Orderly.filling (orderly : collection.Orderly texts commands shop) {name : String}
    {loaded : Option Flow} {next : Except DiskFault Unit → Program (Except FlowError Reply)}
    {part : List UInt8} (asked : commands[i]? = some (.create name loaded))
    (here : shop.workers[i]? = some ⟨.call (.fill (collection.place name) (contentOf loaded)) next,
      some (collection.place name)⟩)
    (careful : collection.Careful (.create name loaded) (.opened name loaded)
      (.call (.fill (collection.place name) (contentOf loaded)) next))
    (start : part <+: contentOf loaded)
    (same : shop.disk.SameBut (collection.place name) left)
    (stands : left.get? (collection.place name) = some (.file part)) :
    collection.Orderly texts commands ⟨left, shop.workers⟩ where
  opens := same.opens orderly.opens
  workers j worker found := by
    by_cases mine : j = i
    · subst mine
      cases here.symm.trans found
      exact ⟨_, _, asked, careful, .inr ⟨rfl, part, start, stands⟩⟩
    obtain ⟨command, hand, ordered, proceeds, fits⟩ := orderly.workers j worker found
    refine ⟨command, hand, ordered, proceeds, fits.kept (fun other opened => ?_) ?_⟩
    · refine same.stands _ fun equal => ?_
      exact mine (orderly.apart j i worker _ _ found here (equal ▸ opened) rfl)
    · rintro path bytes rfl stood
      exact (same.stands _ (place_ne_draft proceeds.draft_eq).symm).trans stood
  apart := orderly.apart
  whole other file solid found := by
    by_cases equal : collection.place other = collection.place name
    · cases place_inj.mp equal
      cases stands.symm.trans found
      exact .inr ⟨part, rfl, i, loaded, next, asked, here, start⟩
    · rw [same.stands _ equal] at found
      exact orderly.whole other file solid found

/-- A new flow has its file opened where none stood, so that nobody else has it open. -/
theorem Orderly.created (orderly : collection.Orderly texts commands shop) {name : String}
    {loaded : Option Flow} {program later : Program (Except FlowError Reply)}
    (asked : commands[i]? = some (.create name loaded))
    (here : shop.workers[i]? = some ⟨program, none⟩)
    (careful : collection.Careful (.create name loaded) (.opened name loaded) later)
    (absent : shop.disk.get? (collection.place name) = none)
    (same : shop.disk.SameBut (collection.place name) left)
    (stands : left.get? (collection.place name) = some (.file [])) :
    collection.Orderly texts commands
      ⟨left, shop.workers.set i ⟨later, some (collection.place name)⟩⟩ := by
  -- Whoever has a file open finds it in its place, so this one is open to nobody.
  have unopened (j : Nat) (worker : Worker (Except FlowError Reply))
      (found : shop.workers[j]? = some worker) : worker.file ≠ some (collection.place name) := by
    obtain ⟨-, hand, -, -, fits⟩ := orderly.workers j worker found
    intro opened
    rw [opened] at fits
    obtain ⟨-, part, -, stood⟩ := fits.of_open
    cases absent.symm.trans stood
  constructor
  · exact same.opens orderly.opens
  · intro j worker found
    rw [getElem?_set_of here] at found
    split at found
    · rename_i equal
      cases found
      exact ⟨_, _, equal ▸ asked, careful, .inr ⟨rfl, [], List.nil_prefix, stands⟩⟩
    obtain ⟨command, hand, ordered, proceeds, fits⟩ := orderly.workers j worker found
    refine ⟨command, hand, ordered, proceeds, fits.kept (fun other opened => ?_) ?_⟩
    · exact same.stands _ fun equal => unopened j worker found (equal ▸ opened)
    · rintro path bytes rfl stood
      exact (same.stands _ (place_ne_draft proceeds.draft_eq).symm).trans stood
  · intro j k first second path one two opened shared
    rw [getElem?_set_of here] at one two
    split at one
    · cases one
      cases opened
      split at two
      · rename_i left right
        rw [left, right]
      · exact absurd shared (unopened k second two)
    · split at two
      · cases two
        cases shared
        exact absurd opened (unopened j first one)
      · exact orderly.apart j k first second path one two opened shared
  · intro other file solid found
    by_cases equal : collection.place other = collection.place name
    · cases place_inj.mp equal
      cases stands.symm.trans found
      cases careful with
      | @fills _ _ next _ later =>
        refine .inr ⟨[], rfl, i, loaded, next, asked, ?_, List.nil_prefix⟩
        rw [getElem?_set_of here, if_pos rfl]
    · rw [same.stands _ equal] at found
      rcases orderly.whole other file solid found with given | ⟨part, whole, j, flow, next, writes⟩
      · exact .inl given
      · obtain ⟨creates, writing, start⟩ := writes
        refine .inr ⟨part, whole, j, flow, next, creates, ?_, start⟩
        rw [getElem?_set_of here, if_neg]
        · exact writing
        · rintro rfl
          cases here.symm.trans writing

/-- No draft is open under the eyes of its worker: it is written by one call. -/
theorem Orderly.file_ne_draft (orderly : collection.Orderly texts commands shop)
    {worker : Worker (Except FlowError Reply)} {path : Path} (member : worker ∈ shop.workers)
    (own : command.draft? collection = some path) : worker.file ≠ some path := by
  obtain ⟨j, found⟩ := List.mem_iff_getElem?.mp member
  obtain ⟨-, hand, -, -, fits⟩ := orderly.workers j worker found
  intro opened
  rw [opened] at fits
  obtain ⟨name, -, same, -⟩ := fits.of_open
  exact place_ne_draft own same.symm

end Moves

section Steps

variable {collection : Collection} {texts : Dict String} {commands : List Command}
  {shop after : Workshop (Except FlowError Reply)} {i : Nat} {left : Disk} {file : Option Path}

/-- A worker puts its draft in the place of its flow. What is moved is nobody's open file, so that it
is as if the draft were removed and its new place emptied. -/
theorem Orderly.replaced (orderly : collection.Orderly texts commands shop)
    (drafts : collection.Apart commands) {command : Command} {name : String} {flow : Flow}
    {id : RunId} (updating : command = .update name flow id)
    {program later : Program (Except FlowError Reply)}
    (here : shop.workers[i]? = some ⟨program, none⟩) (asked : commands[i]? = some command)
    (stands : shop.disk.get? (draft (collection.place name) id) =
      some (.file (contentOf (some flow))))
    (renamed : shop.disk.rename (draft (collection.place name) id) (collection.place name) =
      .ok left)
    (careful : collection.Careful command .empty later) :
    collection.Orderly texts commands
      ⟨left, (shop.workers.map (·.displaced
        (.rename (draft (collection.place name) id) (collection.place name)))).set i
          ⟨later, none⟩⟩ := by
  have own : command.draft? collection = some (draft (collection.place name) id) := by
    rw [updating]
    rfl
  have whole : Whole texts commands name (Flow.savedText (some flow)) :=
    .inr ⟨command, List.mem_of_getElem? asked, some flow, by rw [updating]; exact ⟨rfl, rfl⟩, rfl⟩
  obtain ⟨between, gone, same, moved⟩ := Disk.sameBut_of_rename renamed
  have finished := orderly.onward here asked careful rfl
  have cleared := finished.aside drafts (by rw [getElem?_set_of here, if_pos rfl]) asked careful
    own gone
  have placed := cleared.exchanged same fun file found => by
    rw [moved, stands] at found
    cases found
    exact ⟨_, whole, rfl⟩
  have moving : shop.workers.map (·.displaced
      (.rename (draft (collection.place name) id) (collection.place name))) =
        shop.workers.map (·.displaced (.remove (collection.place name))) := by
    refine List.map_congr_left fun worker present => ?_
    rw [Worker.displaced, Worker.displaced,
      Call.displace_rename_of_ne (orderly.file_ne_draft present own)]
  rw [moving]
  rwa [List.map_set] at placed

theorem Orderly.done (orderly : collection.Orderly texts commands shop)
    (drafts : collection.Apart commands) {β : Type} {c : Call β}
    {next : Except DiskFault β → Program (Except FlowError Reply)} {answer : β}
    (here : shop.workers[i]? = some ⟨.call c next, file⟩)
    (ran : (c.toward file).run shop.disk = (.ok answer, left)) :
    collection.Orderly texts commands
      ⟨left, (shop.workers.map (·.displaced c)).set i ⟨next (.ok answer), c.holds file⟩⟩ := by
  obtain ⟨command, hand, asked, careful, fits⟩ := orderly.workers i _ here
  dsimp only at careful fits
  cases careful with
  | makes later =>
    obtain rfl : file = none := fits
    rw [Worker.map_displaced fun _ _ => rfl]
    exact (orderly.made (.inl ran)).onward here asked (later _) rfl
  | reads later | lists later =>
    obtain rfl : file = none := fits
    obtain ⟨-, rfl⟩ := Prod.mk.inj ran
    rw [Worker.map_displaced fun _ _ => rfl]
    exact orderly.onward here asked (later _) rfl
  | deletes later =>
    obtain rfl : file = none := fits
    obtain ⟨same, absent⟩ := Disk.sameBut_of_remove (Call.changed_of_ok ran)
    have moved := (orderly.onward here asked (later (.ok answer)) rfl).exchanged same
      fun file stands => by cases absent.symm.trans stands
    rwa [List.map_set] at moved
  | creates creating opened refused =>
    obtain rfl : file = none := fits
    obtain ⟨absent, same, stands⟩ := Disk.sameBut_of_createNew (Call.changed_of_ok ran)
    subst creating
    rw [Worker.map_displaced fun _ _ => rfl]
    exact orderly.created asked here opened absent same stands
  | fills creating later =>
    subst creating
    rw [Worker.map_displaced fun _ _ => rfl]
    -- The file may be lost to somebody who replaced or removed it; then nothing is written at all.
    rcases fits with rfl | ⟨rfl, part, -, stands⟩
    · obtain ⟨-, rfl⟩ := Prod.mk.inj ran
      exact orderly.onward here asked (later _) rfl
    · obtain ⟨-, rfl⟩ := Prod.mk.inj ran
      obtain ⟨same, full⟩ := Disk.fill_of_stands (contentOf _) (by simp [place]) stands
      have filled := orderly.filling asked here (.fills rfl later) List.prefix_rfl same full
      refine filled.advanced here asked (later _) rfl fun name opened => ?_
      cases place_inj.mp (Option.some.inj opened)
      exact ⟨_, .inr ⟨_, List.mem_of_getElem? asked, _, ⟨rfl, rfl⟩, rfl⟩, full⟩
  | drafts own drafted failed =>
    obtain rfl : file = none := fits
    obtain ⟨same, full⟩ := Disk.sameBut_of_write (Call.changed_of_ok ran)
    rw [Worker.map_displaced fun _ _ => rfl]
    have written := orderly.aside drafts here asked (.drafts own drafted failed) own same
    exact written.onward here asked drafted ⟨rfl, full⟩
  | clears own later =>
    obtain rfl : file = none := fits
    obtain ⟨same, -⟩ := Disk.sameBut_of_remove (Call.changed_of_ok ran)
    rw [Worker.map_displaced fun worker present =>
      Call.displace_remove_of_ne (orderly.file_ne_draft present own)]
    exact (orderly.aside drafts here asked (.clears own later) own same).onward here asked
      (later _) rfl
  | replaces updating later =>
    obtain ⟨rfl, stands⟩ := fits
    exact orderly.replaced drafts updating here asked stands (Call.changed_of_ok ran) (later _)

theorem Orderly.failed (orderly : collection.Orderly texts commands shop) {β : Type} {c : Call β}
    {next : Except DiskFault β → Program (Except FlowError Reply)} {fault : DiskFault}
    (here : shop.workers[i]? = some ⟨.call c next, file⟩)
    (ran : (c.toward file).run shop.disk = (.error fault, left)) :
    collection.Orderly texts commands ⟨left, shop.workers.set i ⟨next (.error fault), file⟩⟩ := by
  obtain ⟨command, hand, asked, careful, fits⟩ := orderly.workers i _ here
  dsimp only at careful fits
  cases careful with
  | makes later =>
    obtain rfl : file = none := fits
    exact (orderly.made (.inl ran)).onward here asked (later _) rfl
  | reads later | lists later =>
    obtain rfl : file = none := fits
    obtain ⟨-, rfl⟩ := Prod.mk.inj ran
    exact orderly.onward here asked (later _) rfl
  | deletes later | clears _ later | creates _ _ later | drafts _ _ later =>
    obtain rfl : file = none := fits
    obtain rfl := Call.unchanged_of_error ran
    exact orderly.onward here asked (later _) rfl
  | fills =>
    obtain ⟨done, -⟩ := Prod.mk.inj ran
    cases done
  | replaces _ later =>
    obtain rfl : file = none := fits.1
    obtain rfl := Call.unchanged_of_error ran
    exact orderly.onward here asked (later _) rfl

theorem Orderly.partly (orderly : collection.Orderly texts commands shop)
    (drafts : collection.Apart commands) {β : Type} {c : Call β}
    {next : Except DiskFault β → Program (Except FlowError Reply)}
    (here : shop.workers[i]? = some ⟨.call c next, file⟩)
    (breaks : (c.toward file).Breaks shop.disk left) :
    collection.Orderly texts commands ⟨left, shop.workers⟩ := by
  obtain ⟨command, hand, asked, careful, fits⟩ := orderly.workers i _ here
  dsimp only at careful fits
  cases careful with
  | makes later =>
    have goes : (Call.makeDirectories collection.root).Goes shop.disk (.error .notFound) left :=
      .inr ⟨⟨_, rfl⟩, breaks⟩
    exact orderly.made goes
  | reads | lists | creates | replaces =>
    obtain rfl : left = shop.disk := breaks
    exact orderly
  | deletes | clears => cases breaks
  | fills creating later =>
    subst creating
    obtain ⟨written, beginning, rfl⟩ := breaks
    rcases fits with rfl | ⟨rfl, part, -, stands⟩
    · exact orderly
    · obtain ⟨same, begun⟩ := Disk.fill_of_stands written (by simp [place]) stands
      exact orderly.filling asked here (.fills rfl later) beginning same begun
  | drafts own drafted failed =>
    obtain rfl : file = none := fits
    rcases breaks with rfl | ⟨written, -, wrote⟩
    · exact orderly
    · exact orderly.aside drafts here asked (.drafts own drafted failed) own
        (Disk.sameBut_of_write wrote).1

theorem Orderly.goes (orderly : collection.Orderly texts commands shop)
    (drafts : collection.Apart commands) (goes : shop.Goes after) :
    collection.Orderly texts commands after := by
  cases goes with
  | done here ran => exact orderly.done drafts here ran
  | failed here ran => exact orderly.failed here ran
  | partly here breaks => exact orderly.partly drafts here breaks

end Steps

section Histories

variable {collection : Collection} {texts : Dict String} {commands : List Command}
  {disk : Disk} {shop : Workshop (Except FlowError Reply)}

theorem orderly_employ (standard : collection.registry = .standard)
    (contains : collection.Contains disk texts) :
    collection.Orderly texts commands (collection.employ commands disk) where
  opens := contains.opens
  workers i worker found := by
    obtain ⟨program, hired, rfl⟩ := Option.map_eq_some_iff.mp (List.getElem?_map ▸ found)
    obtain ⟨command, asked, rfl⟩ := Option.map_eq_some_iff.mp (List.getElem?_map ▸ hired)
    exact ⟨command, .empty, asked, careful_program standard command, rfl⟩
  apart i j worker other path one two opened shared := by
    obtain ⟨program, hired, rfl⟩ := Option.map_eq_some_iff.mp (List.getElem?_map ▸ one)
    cases opened
  whole name file solid stands := by
    change disk.get? _ = _ at stands
    rw [contains.files name solid, Option.map_eq_some_iff] at stands
    obtain ⟨text, bound, rfl⟩ := stands
    exact .inl ⟨text, .inl bound, rfl⟩

theorem apart_of_nodup (nodup : (commands.filterMap (·.draft? collection)).Nodup) :
    collection.Apart commands := by
  intro i j one other path first second own shared
  obtain ⟨bound, rfl⟩ := List.getElem?_eq_some_iff.mp first
  obtain ⟨within, rfl⟩ := List.getElem?_eq_some_iff.mp second
  have apart := List.pairwise_iff_getElem.mp (List.pairwise_filterMap.mp nodup)
  rcases Nat.lt_trichotomy i j with less | same | more
  · exact absurd rfl (apart i j bound within less path own path shared)
  · exact same
  · exact absurd rfl (apart j i within bound more path shared path own)

/-- However the calls of the commands come: what stands in the place of a flow is complete, and was
there at first or is what a command stores, unless somebody is writing it there. -/
theorem Orderly.of_reachable (standard : collection.registry = .standard)
    (contains : collection.Contains disk texts)
    (nodup : (commands.filterMap (·.draft? collection)).Nodup)
    (steps : ReflTransGen Workshop.Goes (collection.employ commands disk) shop) :
    collection.Orderly texts commands shop := by
  induction steps with
  | refl => exact orderly_employ standard contains
  | tail _ goes ih => exact ih.goes (apart_of_nodup nodup) goes

def Hand.file (collection : Collection) : Hand → Option Path
  | .opened name _ => some (collection.place name)
  | .empty | .drafted .. => none

/-- A command that nobody disturbs does what it does by itself. -/
theorem Careful.goesAlone {command : Command} {hand : Hand}
    {program : Program (Except FlowError Reply)} {i : Nat}
    (careful : collection.Careful command hand program)
    (here : shop.workers[i]? = some ⟨program, hand.file collection⟩) :
    shop.GoesAlone i program := by
  induction careful generalizing shop with
  | done result => exact ⟨shop, .refl, rfl, here, fun _ _ _ closed => closed⟩
  | makes _ ih | reads _ ih | lists _ ih | deletes _ ih | clears _ _ ih | replaces _ _ ih =>
    exact Workshop.goesAlone_call here rfl (fun _ _ _ there => ih _ there)
      (fun _ _ _ there => ih _ there)
  | creates _ _ _ opened refused =>
    exact Workshop.goesAlone_call here rfl (fun _ _ _ there => opened there)
      (fun fault _ _ there => refused fault there)
  | fills _ _ ih =>
    exact Workshop.goesAlone_call here rfl (fun _ _ _ there => ih _ there)
      (fun _ _ ran _ => by cases (Prod.mk.inj ran).1)
  | drafts _ _ _ drafted failed =>
    exact Workshop.goesAlone_call here rfl (fun _ _ _ there => drafted there)
      (fun fault _ _ there => failed fault there)

end Histories

end Collection

end Scenario
