import Scenario.Proofs.Collection.Files
/-!
Calls that fail.

Every call may fail for a reason of its own: then it has done nothing, or only a part of what it
was asked for. Removing is the one call that fails for reasons of the disk alone. Saving a flow
clears away what a failed call left; creating one does not.
-/
namespace Scenario

namespace Disk

/-- What stands at each path is what stood there before, or is a directory of the path that was
missing. -/
def Spares (path : Path) (disk left : Disk) : Prop :=
  ∀ other, left.get? other = disk.get? other ∨
    (other <+: path ∧ disk.get? other = none ∧ left.get? other = some .directory)

namespace Spares

variable {path : Path} {disk between left : Disk}

theorem refl (path : Path) (disk : Disk) : Spares path disk disk := fun _ => .inl rfl

theorem trans (first : Spares path disk between) (second : Spares path between left) :
    Spares path disk left := by
  intro other
  rcases first other with same | ⟨before, missing, made⟩
  · rcases second other with kept | ⟨before, missing, made⟩
    · exact .inl (kept.trans same)
    · exact .inr ⟨before, same ▸ missing, made⟩
  · rcases second other with kept | ⟨-, absent, -⟩
    · exact .inr ⟨before, missing, kept.trans made⟩
    · cases made.symm.trans absent

theorem file_iff (spares : Spares path disk left) (other : Path) (bytes : List UInt8) :
    left.get? other = some (.file bytes) ↔ disk.get? other = some (.file bytes) := by
  rcases spares other with same | ⟨-, missing, made⟩
  · rw [same]
  · rw [missing, made]
    exact iff_of_false nofun nofun

end Spares

theorem prefix_of_mem_gaps {entries : List (Path × File)} {path gap : Path}
    (missing : gap ∈ (gaps entries path).1) : gap <+: path := by
  induction path generalizing entries gap with
  | nil => simp [gaps] at missing
  | cons name rest ih =>
    have deeper (inside : gap ∈ (gaps (below name entries) rest).1.map (name :: ·)) :
        gap <+: name :: rest := by
      obtain ⟨later, found, rfl⟩ := List.mem_map.mp inside
      exact List.cons_prefix_cons.mpr ⟨rfl, ih found⟩
    rw [gaps] at missing
    split at missing
    · cases missing
    dsimp only at missing
    split at missing
    · cases missing
    · split at missing
      · rcases List.mem_cons.mp missing with rfl | inside
        · exact List.cons_prefix_cons.mpr ⟨rfl, List.nil_prefix⟩
        · exact deeper inside
      · exact deeper missing

theorem spares_makeDirectories (disk : Disk) (path : Path) :
    disk.Spares path (disk.makeDirectories path).2 := by
  intro other
  unfold makeDirectories
  split
  · exact .inl rfl
  by_cases start : other = []
  · exact .inl (by rw [start]; rfl)
  rw [get?_of_ne start, get?_of_ne start]
  dsimp only
  rw [List.lookup_append, lookup_directories]
  split
  · rename_i missing
    have absent := (mem_gaps missing).2
    exact .inr ⟨prefix_of_mem_gaps missing, absent, by rw [absent]; rfl⟩
  · exact .inl (by simp)

theorem Spares.mono {path longer : Path} {disk left : Disk} (spares : Spares path disk left)
    (before : path <+: longer) : Spares longer disk left :=
  fun other => (spares other).imp_right fun ⟨inside, more⟩ => ⟨inside.trans before, more⟩

/-- What was written where no file stood is as if it had never been, once it is removed. -/
theorem spares_erase_set {disk : Disk} {path : Path} (root : Path) (below : path ≠ [])
    (free : disk.get? path = none) (file : File) :
    disk.Spares root ((disk.set path file).erase path) := by
  intro other
  rw [get?_erase _ below, get?_set _ below]
  split
  · rename_i same
    exact .inl (same ▸ free.symm)
  · exact .inl rfl

end Disk

/-- What a call may leave that breaks off: of a path the first directories may be made, and of a
content the beginning may be written. -/
def Call.Breaks {α : Type} (c : Call α) (disk left : Disk) : Prop :=
  match c with
  | .makeDirectories path => ∃ made, made <+: path ∧ left = (disk.makeDirectories made).2
  | .fill path bytes => ∃ written, written <+: bytes ∧ left = disk.fill path written
  | .write path bytes =>
    left = disk ∨ ∃ written, written <+: bytes ∧ disk.write path written = .ok left
  | .remove _ => False
  | .createNew _ | .rename .. | .read _ | .list _ => left = disk

/-- What a call may come to: it is carried out, or it breaks off with some fault. -/
def Call.Goes {α : Type} (c : Call α) (disk : Disk) (answer : Except DiskFault α) (left : Disk) :
    Prop :=
  c.run disk = (answer, left) ∨ (∃ fault, answer = .error fault) ∧ c.Breaks disk left

theorem Call.limits_of_goes {α : Type} {c : Call α} {disk left : Disk} {answer : Except DiskFault α}
    (goes : c.Goes disk answer left) : left.limits = disk.limits := by
  rcases goes with ran | ⟨-, breaks⟩
  · have kept := c.limits_run disk
    rwa [ran] at kept
  · cases c with
    | makeDirectories path =>
      obtain ⟨made, -, rfl⟩ := breaks
      exact disk.makeDirectories_limits made
    | fill path bytes =>
      obtain ⟨written, -, rfl⟩ := breaks
      exact (Call.fill path written).limits_run disk
    | write path bytes =>
      rcases breaks with rfl | ⟨written, -, wrote⟩
      · rfl
      · exact (Disk.sameBut_of_write wrote).1.limits
    | remove path => cases breaks
    | createNew | rename | read | list =>
      obtain rfl : left = disk := breaks
      rfl

/-- What a program may come to, each of whose calls may break off. -/
inductive Program.Ends {α : Type} : Program α → Disk → α → Disk → Prop where
  | done (result : α) (disk : Disk) : Ends (.done result) disk result disk
  | call {β : Type} {c : Call β} {next : Except DiskFault β → Program α} {disk between left : Disk}
    {answer : Except DiskFault β} {result : α} (goes : c.Goes disk answer between)
    (rest : (next answer).Ends between result left) : Ends (.call c next) disk result left

namespace Program

variable {α β : Type} {disk left : Disk}

theorem ends_run (program : Program α) (disk : Disk) :
    program.Ends disk (program.run disk).1 (program.run disk).2 := by
  induction program generalizing disk with
  | done result => exact .done result disk
  | call c next ih => exact .call (.inl rfl) (ih (c.run disk).1 (c.run disk).2)

theorem ends_done_iff {result other : α} :
    (Program.done result).Ends disk other left ↔ other = result ∧ left = disk := by
  constructor
  · rintro ⟨⟩
    exact ⟨rfl, rfl⟩
  · rintro ⟨rfl, rfl⟩
    exact .done _ _

theorem Looks.ends {program : Program α} {result : α} (looks : program.Looks)
    (ends : program.Ends disk result left) : left = disk := by
  induction ends with
  | done => rfl
  | @call _ c _ _ _ _ _ _ goes _ ih =>
    refine (ih (looks.2 _)).trans ?_
    cases c with
    | read | list =>
      rcases goes with ran | ⟨-, still⟩
      · exact (Prod.mk.inj ran).2.symm
      · exact still
    | makeDirectories | createNew | fill | write | rename | remove => cases looks.1

theorem ends_bind {program : Program α} {next : α → Program β} {result : β}
    (ends : (program >>= next).Ends disk result left) :
    ∃ a between, program.Ends disk a between ∧ (next a).Ends between result left := by
  induction program generalizing disk with
  | done a => exact ⟨a, disk, .done a disk, ends⟩
  | call c rest ih =>
    cases ends with
    | call goes later =>
      obtain ⟨a, between, first, second⟩ := ih _ later
      exact ⟨a, between, .call goes first, second⟩

theorem Ends.bind {program : Program α} {next : α → Program β} {a : α} {between : Disk} {result : β}
    (first : program.Ends disk a between) (rest : (next a).Ends between result left) :
    (program >>= next).Ends disk result left := by
  induction first with
  | done => exact rest
  | call goes _ ih => exact .call goes (ih rest)

end Program

namespace FileTask

variable {α β : Type} {disk left : Disk}

/-- What a task may come to, each of whose calls may break off. -/
def Ends (task : FileTask α) (disk : Disk) (result : Except FlowError α) (left : Disk) : Prop :=
  Program.Ends (ExceptT.run task) disk result left

theorem ends_run (task : FileTask α) (disk : Disk) :
    task.Ends disk (task.run disk).1 (task.run disk).2 :=
  Program.ends_run (ExceptT.run task) disk

theorem Looks.ends {task : FileTask α} {result : Except FlowError α} (looks : task.Looks)
    (ends : task.Ends disk result left) : left = disk :=
  Program.Looks.ends looks ends

theorem ends_bind_cases {task : FileTask α} {next : α → FileTask β} {result : Except FlowError β}
    (ends : (task >>= next).Ends disk result left) :
    (∃ e, result = .error e ∧ task.Ends disk (.error e) left) ∨
      ∃ a between, task.Ends disk (.ok a) between ∧ (next a).Ends between result left := by
  obtain ⟨come, between, first, second⟩ := Program.ends_bind ends
  cases come with
  | ok a => exact .inr ⟨a, between, first, second⟩
  | error e =>
    obtain ⟨same, rfl⟩ := Program.ends_done_iff.mp second
    exact .inl ⟨e, same, first⟩

theorem ends_bind {task : FileTask α} {next : α → FileTask β} {e : FlowError}
    (ends : (task >>= next).Ends disk (.error e) left) :
    task.Ends disk (.error e) left ∨
      ∃ a between, task.Ends disk (.ok a) between ∧ (next a).Ends between (.error e) left := by
  rcases ends_bind_cases ends with ⟨_, same, failed⟩ | later
  · cases same
    exact .inl failed
  · exact .inr later

theorem Ends.bind {task : FileTask α} {next : α → FileTask β} {a : α} {between : Disk}
    {result : Except FlowError β} (first : task.Ends disk (.ok a) between)
    (rest : (next a).Ends between result left) : (task >>= next).Ends disk result left :=
  Program.Ends.bind first rest

theorem Ends.bind_error {task : FileTask α} {e : FlowError} (failed : task.Ends disk (.error e) left)
    (next : α → FileTask β) : (task >>= next).Ends disk (.error e) left :=
  Program.Ends.bind failed (.done _ left)

theorem Ends.perform {c : Call α} {answer : Except DiskFault α} (goes : c.Goes disk answer left) :
    (FileTask.perform c).Ends disk (answer.mapError .disk) left :=
  .call goes (.done _ left)

theorem Ends.attempt {c : Call α} {answer : Except DiskFault α} (goes : c.Goes disk answer left) :
    (FileTask.attempt c).Ends disk (.ok answer) left :=
  .call goes (.done _ left)

theorem ends_ofExcept {result given : Except FlowError α}
    (ends : (ofExcept given).Ends disk result left) : given = result ∧ disk = left :=
  (Program.ends_done_iff.mp ends).imp Eq.symm Eq.symm

theorem ends_throw {e : FlowError} {result : Except FlowError α}
    (ends : (throw e : FileTask α).Ends disk result left) : left = disk :=
  (Program.ends_done_iff.mp ends).2

theorem not_ends_pure {a : α} {e : FlowError} :
    ¬ (pure a : FileTask α).Ends disk (.error e) left :=
  fun ends => nomatch (Program.ends_done_iff.mp ends).1

theorem ends_attempt {c : Call α} {result : Except FlowError (Except DiskFault α)}
    (ends : (attempt c).Ends disk result left) :
    ∃ answer, c.Goes disk answer left ∧ result = .ok answer := by
  cases ends with
  | call goes rest =>
    obtain ⟨rfl, rfl⟩ := Program.ends_done_iff.mp rest
    exact ⟨_, goes, rfl⟩

theorem ends_perform {c : Call α} {result : Except FlowError α}
    (ends : (perform c).Ends disk result left) :
    ∃ answer, c.Goes disk answer left ∧ result = answer.mapError .disk := by
  cases ends with
  | call goes rest =>
    obtain ⟨rfl, rfl⟩ := Program.ends_done_iff.mp rest
    exact ⟨_, goes, rfl⟩

end FileTask

section Calls

variable {disk between left : Disk} {path : Path} {bytes : List UInt8}

/-- A call that changes the disk does so, or it fails and leaves the disk as it is. -/
theorem Call.change_cases {changed : Except DiskFault Disk} {answer : Except DiskFault Unit}
    (ran : Call.change disk changed = (answer, left)) :
    (∃ fault, changed = .error fault ∧ answer = .error fault ∧ left = disk) ∨
      changed = .ok left ∧ answer = .ok () := by
  cases changed with
  | error fault =>
    cases ran
    exact .inl ⟨fault, rfl, rfl, rfl⟩
  | ok after =>
    cases ran
    exact .inr ⟨rfl, rfl⟩

theorem Call.spares_of_makeDirectories {answer : Except DiskFault Unit}
    (goes : (Call.makeDirectories path).Goes disk answer left) : disk.Spares path left := by
  rcases goes with ran | ⟨-, made, before, rfl⟩
  · obtain ⟨-, rfl⟩ := Prod.mk.inj ran
    exact disk.spares_makeDirectories path
  · exact (disk.spares_makeDirectories made).mono before

theorem Call.createNew_of_goes {answer : Except DiskFault Unit}
    (goes : (Call.createNew path).Goes disk answer left) :
    (∃ fault, answer = .error fault ∧ left = disk) ∨
      answer = .ok () ∧ disk.createNew path = .ok left := by
  rcases goes with ran | ⟨⟨fault, rfl⟩, rfl⟩
  · rcases Call.change_cases ran with ⟨fault, -, failed, kept⟩ | ⟨opened, done⟩
    · exact .inl ⟨fault, failed, kept⟩
    · exact .inr ⟨done, opened⟩
  · exact .inl ⟨fault, rfl, rfl⟩

theorem Call.fill_of_goes {fault : DiskFault}
    (goes : (Call.fill path bytes).Goes disk (.error fault) left) :
    ∃ written, written <+: bytes ∧ left = disk.fill path written := by
  rcases goes with ran | ⟨-, partly⟩
  · cases ran
  · exact partly

/-- A file is not opened, or it is and the beginning of its content is written. -/
theorem Call.write_of_goes {answer : Except DiskFault Unit}
    (goes : (Call.write path bytes).Goes disk answer left) :
    left = disk ∨ ∃ written, disk.write path written = .ok left := by
  rcases goes with ran | ⟨-, rfl | ⟨written, -, opened⟩⟩
  · rcases Call.change_cases ran with ⟨-, -, -, kept⟩ | ⟨opened, -⟩
    · exact .inl kept
    · exact .inr ⟨bytes, opened⟩
  · exact .inl rfl
  · exact .inr ⟨written, opened⟩

theorem Call.rename_of_goes {source target : Path} {fault : DiskFault}
    (goes : (Call.rename source target).Goes disk (.error fault) left) : left = disk := by
  rcases goes with ran | ⟨-, rfl⟩
  · rcases Call.change_cases ran with ⟨-, -, -, kept⟩ | ⟨-, done⟩
    · exact kept
    · cases done
  · rfl

/-- A draft that was not there before is cleared away, whether it was opened or not. -/
theorem Call.spares_of_remove {answer : Except DiskFault Unit} (root : Path) (below : path ≠ [])
    (fresh : ∀ bytes, disk.get? path ≠ some (.file bytes))
    (drafted : between = disk ∨ ∃ written, disk.write path written = .ok between)
    (goes : (Call.remove path).Goes between answer left) : disk.Spares root left := by
  rcases goes with ran | ⟨-, ⟨⟩⟩
  rcases drafted with rfl | ⟨written, wrote⟩
  -- If the draft was never opened, there is nothing to remove.
  · rcases Call.change_cases ran with ⟨-, -, -, rfl⟩ | ⟨removed, -⟩
    · exact .refl root _
    · obtain ⟨-, ⟨bytes, stands⟩, -⟩ := (Disk.remove_eq_ok_iff _ _ _).mp removed
      exact absurd stands (fresh bytes)
  · obtain ⟨reaches, plain, rfl⟩ := (Disk.write_eq_ok_iff _ _ _ _).mp wrote
    have free : disk.get? path = none := by
      cases stands : disk.get? path with
      | none => rfl
      | some file =>
        cases file with
        | directory => exact absurd stands plain
        | file bytes => exact absurd stands (fresh bytes)
    have removed : (disk.set path (.file written)).remove path =
        .ok ((disk.set path (.file written)).erase path) := by
      refine (Disk.remove_eq_ok_iff _ _ _).mpr ⟨⟨reaches.holds, ?_⟩, ⟨written, ?_⟩, rfl⟩
      · intro step before other
        rw [Disk.get?_set _ below, if_neg other]
        exact reaches.way step before other
      · rw [Disk.get?_set _ below, if_pos rfl]
    rcases Call.change_cases ran with ⟨fault, failed, -, -⟩ | ⟨cleared, -⟩
    · cases failed.symm.trans removed
    · cases cleared.symm.trans removed
      exact Disk.spares_erase_set root below free (.file written)

end Calls

namespace Collection

variable {collection : Collection} {name : String} {disk left : Disk} {e : FlowError}

theorem spares_of_replaceFile {path : Path} {bytes : List UInt8} {id : RunId} (root : Path)
    (fresh : ∀ bytes, disk.get? (draft path id) ≠ some (.file bytes))
    (ends : (replaceFile path bytes id).Ends disk (.error e) left) : disk.Spares root left := by
  have below : draft path id ≠ [] := by simp [draft]
  rcases FileTask.ends_bind ends with first | ⟨answer, drafted, first, ends⟩
  · obtain ⟨answer, -, same⟩ := FileTask.ends_attempt first
    cases same
  obtain ⟨_, wrote, same⟩ := FileTask.ends_attempt first
  cases same
  -- After writing or moving has failed, what was written of the draft is removed all the same.
  have clears {fault : DiskFault} {between : Disk}
      (partly : between = disk ∨ ∃ written, disk.write (draft path id) written = .ok between)
      (ends : FileTask.Ends (do
        let _ ← FileTask.attempt (.remove (draft path id))
        throw (.disk fault) : FileTask Unit) between (.error e) left) : disk.Spares root left := by
    rcases FileTask.ends_bind ends with first | ⟨answer, cleared, first, ends⟩
    · obtain ⟨answer, -, same⟩ := FileTask.ends_attempt first
      cases same
    obtain ⟨_, removed, -⟩ := FileTask.ends_attempt first
    obtain rfl := FileTask.ends_throw ends
    exact Call.spares_of_remove root below fresh partly removed
  have partly := Call.write_of_goes wrote
  cases answer with
  | error fault => exact clears partly ends
  | ok =>
    rcases FileTask.ends_bind ends with first | ⟨answer, moved, first, ends⟩
    · obtain ⟨answer, -, same⟩ := FileTask.ends_attempt first
      cases same
    obtain ⟨_, renamed, same⟩ := FileTask.ends_attempt first
    cases same
    cases answer with
    | error fault => exact clears (Call.rename_of_goes renamed ▸ partly) ends
    | ok => exact absurd ends FileTask.not_ends_pure

/-- A task that is to write a flow fails before it comes to its file, with all files as they were, or
it goes on from there. -/
theorem spares_of_ends {flow : Option Flow} {rest : Path → String → FileTask Path}
    (ends : FileTask.Ends (do
      let path ← FileTask.ofExcept (collection.flowPath name)
      let text ← FileTask.ofExcept (collection.registry.write flow)
      FileTask.perform (.makeDirectories collection.root)
      rest path text) disk (.error e) left) :
    disk.Spares collection.root left ∨ ∃ made text, disk.Spares collection.root made ∧
      collection.registry.write flow = .ok text ∧
        (rest (collection.place name) text).Ends made (.error e) left := by
  rcases FileTask.ends_bind ends with refused | ⟨path, _, finds, encodes⟩
  · exact .inl ((FileTask.ends_ofExcept refused).2 ▸ .refl _ disk)
  obtain ⟨named, rfl⟩ := FileTask.ends_ofExcept finds
  obtain ⟨-, rfl⟩ := flowPath_eq_ok_iff.mp named
  rcases FileTask.ends_bind encodes with refused | ⟨text, _, writes, makes⟩
  · exact .inl ((FileTask.ends_ofExcept refused).2 ▸ .refl _ disk)
  obtain ⟨written, rfl⟩ := FileTask.ends_ofExcept writes
  rcases FileTask.ends_bind makes with unmade | ⟨_, made, makes, goesOn⟩
  · obtain ⟨_, goes, -⟩ := FileTask.ends_perform unmade
    exact .inl (Call.spares_of_makeDirectories goes)
  · obtain ⟨_, goes, -⟩ := FileTask.ends_perform makes
    exact .inr ⟨made, text, Call.spares_of_makeDirectories goes, written, goesOn⟩

/-- Whichever call fails, a flow that is not saved leaves all files as they were. -/
theorem spares_of_update {flow : Flow} {id : RunId}
    (fresh : ∀ bytes, disk.get? (draft (collection.place name) id) ≠ some (.file bytes))
    (ends : (collection.update name flow id).Ends disk (.error e) left) :
    disk.Spares collection.root left := by
  rcases spares_of_ends ends with spares | ⟨made, text, spares, -, replaces⟩
  · exact spares
  rcases FileTask.ends_bind replaces with unplaced | ⟨_, _, -, done⟩
  · refine spares.trans (spares_of_replaceFile _ (fun bytes stands => ?_) unplaced)
    exact fresh bytes ((spares.file_iff _ bytes).mp stands)
  · exact absurd done FileTask.not_ends_pure

/-- Saving a flow may still fail when all that is left to do is to put the draft in its place. -/
theorem ends_update_of_broken {texts : Dict String} (contains : collection.Contains disk texts)
    (valid : isName name = true) {flow : Flow} {text : String} (id : RunId)
    (holds : disk.Holds (draft (collection.place name) id))
    (written : collection.registry.write (some flow) = .ok text) (fault : DiskFault) :
    ∃ left, (collection.update name flow id).Ends disk (.error (.disk fault)) left := by
  obtain ⟨made, makes, limits, leads, contains⟩ := contains.made
  rw [Disk.Holds, ← limits] at holds
  let drafted := made.set (draft (collection.place name) id) (.file (bytesOf text.toList))
  let cleared := (Call.remove (draft (collection.place name) id)).run drafted
  have drafts : made.write (draft (collection.place name) id) (bytesOf text.toList) =
      .ok drafted :=
    (Disk.write_eq_ok_iff _ _ _ _).mpr ⟨reaches_draft leads holds, contains.drafts name id, rfl⟩
  have goes : (Call.makeDirectories collection.root).Goes disk (.ok ()) made := .inl makes
  have writes : (Call.write (draft (collection.place name) id) (bytesOf text.toList)).Goes made
      (.ok ()) drafted := .inl (by rw [Call.run, drafts]; rfl)
  have breaks : (Call.rename (draft (collection.place name) id) (collection.place name)).Goes
      drafted (.error fault) drafted := .inr ⟨⟨fault, rfl⟩, rfl⟩
  have clears : (Call.remove (draft (collection.place name) id)).Goes drafted cleared.1
      cleared.2 := .inl rfl
  refine ⟨cleared.2, ?_⟩
  rw [update, flowPath_of_isName valid, written]
  refine .bind (.done _ disk) (.bind (.done _ disk) (.bind (.perform goes) (.bind_error ?_ _)))
  exact .bind (.attempt writes) (.bind (.attempt breaks) (.bind (.attempt clears) (.done _ _)))

/-- What is left of a flow that is new when its content cannot be written: its file is there, with
the beginning of its content. But for this file all is as it was. -/
structure Residue (collection : Collection) (name : String) (flow : Option Flow)
    (disk left : Disk) : Prop where
  absent : disk.get? (collection.place name) = none
  partly : ∃ text written, collection.registry.write flow = .ok text ∧
    written <+: bytesOf text.toList ∧ left.get? (collection.place name) = some (.file written)
  others : disk.Spares collection.root (left.erase (collection.place name))

theorem residue_of_fill {flow : Option Flow} {made : Disk} {text : String} {part : List UInt8}
    (spares : disk.Spares collection.root made) (free : made.get? (collection.place name) = none)
    (written : collection.registry.write flow = .ok text) (start : part <+: bytesOf text.toList) :
    collection.Residue name flow disk
      ((made.set (collection.place name) (.file [])).fill (collection.place name) part) := by
  have below : collection.place name ≠ [] := by simp [place]
  have absent : disk.get? (collection.place name) = none := by
    rcases spares (collection.place name) with same | ⟨inside, -⟩
    · rw [← same, free]
    · exact absurd inside Disk.not_prefix_parent
  have filled : (made.set (collection.place name) (.file [])).fill (collection.place name) part =
      (made.set (collection.place name) (.file [])).set (collection.place name) (.file part) := by
    rw [Disk.fill, Disk.get?_set _ below, if_pos rfl]
  rw [filled]
  refine ⟨absent, ⟨text, part, written, start, ?_⟩, fun other => ?_⟩
  · rw [Disk.get?_set _ below, if_pos rfl]
  · rw [Disk.get?_erase _ below]
    split
    · rename_i same
      exact .inl (same ▸ absent.symm)
    · rename_i apart
      rw [Disk.get?_set _ below, if_neg apart, Disk.get?_set _ below, if_neg apart]
      exact spares other

/-- Whichever call fails, a flow that is not created leaves all files as they were, unless its file
was opened: then that is not cleared away. -/
theorem spares_of_create {flow : Option Flow}
    (ends : (collection.create name flow).Ends disk (.error e) left) :
    disk.Spares collection.root left ∨ collection.Residue name flow disk left := by
  rcases spares_of_ends ends with spares | ⟨made, text, spares, written, creates⟩
  · exact .inl spares
  rcases FileTask.ends_bind creates with unopened | ⟨_, opened, opens, fills⟩
  · obtain ⟨_, goes, failed⟩ := FileTask.ends_perform unopened
    rcases Call.createNew_of_goes goes with ⟨-, -, rfl⟩ | ⟨rfl, -⟩
    · exact .inl spares
    · cases failed
  obtain ⟨_, goes, answered⟩ := FileTask.ends_perform opens
  rcases Call.createNew_of_goes goes with ⟨_, rfl, -⟩ | ⟨-, new⟩
  · cases answered
  rcases FileTask.ends_bind fills with unwritten | ⟨_, _, -, done⟩
  · obtain ⟨answer, goes, failed⟩ := FileTask.ends_perform unwritten
    cases answer with
    | ok => cases failed
    | error fault =>
      obtain ⟨part, start, rfl⟩ := Call.fill_of_goes goes
      obtain ⟨-, free, rfl⟩ := (Disk.createNew_eq_ok_iff _ _ _).mp new
      exact .inr (residue_of_fill spares free written start)
  · exact absurd done FileTask.not_ends_pure

theorem Residue.not_spares {flow : Option Flow} (residue : collection.Residue name flow disk left) :
    ¬ disk.Spares collection.root left := by
  intro spares
  obtain ⟨text, written, -, -, stands⟩ := residue.partly
  have before := (spares.file_iff _ _).mp stands
  cases before.symm.trans residue.absent

/-- Whenever a flow can be created, its file is left behind if the disk fails once it is open. -/
theorem ends_create_of_broken {texts : Dict String} (contains : collection.Contains disk texts)
    (valid : isName name = true) (holds : disk.Holds (collection.place name))
    (absent : texts.get? name = none) {flow : Option Flow} {text : String}
    (written : collection.registry.write flow = .ok text) {part : List UInt8}
    (start : part <+: bytesOf text.toList) (fault : DiskFault) :
    ∃ left, (collection.create name flow).Ends disk (.error (.disk fault)) left ∧
      left.get? (collection.place name) = some (.file part) := by
  obtain ⟨made, makes, limits, leads, contains⟩ := contains.made
  rw [Disk.Holds, ← limits] at holds
  let opened := made.set (collection.place name) (.file [])
  have below : collection.place name ≠ [] := by simp [place]
  have opens : made.createNew (collection.place name) = .ok opened := by
    rw [Disk.createNew_eq_ok_iff, contains.get?_place valid, absent]
    exact ⟨Disk.reaches_child leads holds, rfl, rfl⟩
  have goes : (Call.makeDirectories collection.root).Goes disk (.ok ()) made := .inl makes
  have creates : (Call.createNew (collection.place name)).Goes made (.ok ()) opened :=
    .inl (by rw [Call.run, opens]; rfl)
  have breaks : (Call.fill (collection.place name) (bytesOf text.toList)).Goes opened
      (.error fault) (opened.fill (collection.place name) part) :=
    .inr ⟨⟨fault, rfl⟩, part, start, rfl⟩
  refine ⟨opened.fill (collection.place name) part, ?_, ?_⟩
  · rw [create, flowPath_of_isName valid, written]
    refine .bind (.done _ disk) (.bind (.done _ disk) (.bind (.perform goes) ?_))
    exact .bind (.perform creates) (.bind_error (.perform breaks) _)
  · rw [Disk.fill, Disk.get?_set _ below, if_pos rfl, Disk.get?_set _ below, if_pos rfl]

theorem spares_of_create_run {flow : Option Flow}
    (ran : (collection.create name flow).run disk = (.error e, left)) :
    disk.Spares collection.root left := by
  cases valid : isName name with
  | false =>
    rw [create_of_not_isName valid] at ran
    cases ran
    exact .refl _ disk
  | true =>
    cases written : collection.registry.write flow with
    | error fault =>
      simp only [create, FileTask.run_bind, flowPath_of_isName valid, FileTask.run_ofExcept,
        written] at ran
      cases ran
      exact .refl _ disk
    | ok text =>
      have spares := disk.spares_makeDirectories collection.root
      rcases makes : disk.makeDirectories collection.root with ⟨result, made⟩
      rw [makes] at spares
      cases result with
      | error fault =>
        simp only [create, FileTask.run_bind, flowPath_of_isName valid, FileTask.run_ofExcept,
          written, FileTask.run_perform, Call.run, makes, Except.mapError] at ran
        cases ran
        exact spares
      | ok =>
        -- The file cannot be filled in part here: whatever fails does so before it is there.
        rw [create_of_made valid written makes] at ran
        split at ran
        · cases ran
        · cases ran
          exact spares

/-- A flow that is not deleted leaves the disk as it is. -/
theorem delete_cases {result : Except FlowError Bool}
    (ends : (collection.delete name).Ends disk result left) : result = .ok true ∨ left = disk := by
  rcases FileTask.ends_bind_cases ends with ⟨_, -, refused⟩ | ⟨path, _, finds, removes⟩
  · exact .inr (FileTask.ends_ofExcept refused).2.symm
  obtain ⟨-, rfl⟩ := FileTask.ends_ofExcept finds
  rcases FileTask.ends_bind_cases removes with ⟨_, -, failed⟩ | ⟨answer, _, removed, rest⟩
  · obtain ⟨_, -, same⟩ := FileTask.ends_attempt failed
    cases same
  obtain ⟨_, goes, same⟩ := FileTask.ends_attempt removed
  cases same
  have ran : (Call.remove path).run disk = _ := goes.resolve_right fun ⟨_, breaks⟩ => breaks
  rcases Call.change_cases ran with ⟨fault, -, rfl, rfl⟩ | ⟨-, rfl⟩
  · refine .inr ?_
    cases fault with
    | notFound => exact (Program.ends_done_iff.mp rest).2
    | _ => exact FileTask.ends_throw rest
  · exact .inl (Program.ends_done_iff.mp rest).1

end Collection

end Scenario
