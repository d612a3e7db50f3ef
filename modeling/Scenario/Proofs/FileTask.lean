import Scenario.Collection
import Scenario.Proofs.Disk
/-!
How file tasks run.

A task is run step by step: what follows a step runs on the disk that the step left, and an error
ends the task there. No task changes how long paths may be, and one that makes no other calls than
to look leaves the disk as it is.
-/
namespace Scenario

section Limits

variable {α : Type}

theorem Call.limits_change {disk : Disk} {changed : Except DiskFault Disk}
    (kept : ∀ left, changed = .ok left → left.limits = disk.limits) :
    (change disk changed).2.limits = disk.limits := by
  cases changed with
  | error fault => rfl
  | ok left => exact kept left rfl

theorem Call.limits_run (c : Call α) (disk : Disk) : (c.run disk).2.limits = disk.limits := by
  cases c with
  | makeDirectories path => exact disk.makeDirectories_limits path
  | createNew path => exact limits_change fun _ opened => (Disk.sameBut_of_createNew opened).2.1.limits
  | fill path bytes =>
    rw [run, Disk.fill]
    split <;> rfl
  | write path bytes => exact limits_change fun _ wrote => (Disk.sameBut_of_write wrote).1.limits
  | rename source target =>
    refine limits_change fun _ moved => ?_
    obtain ⟨between, gone, stored, -⟩ := Disk.sameBut_of_rename moved
    exact stored.limits.trans gone.limits
  | remove path => exact limits_change fun _ removed => (Disk.sameBut_of_remove removed).1.limits
  | read path => rfl
  | list path => rfl

theorem Program.limits_run (program : Program α) (disk : Disk) :
    (program.run disk).2.limits = disk.limits := by
  induction program generalizing disk with
  | done result => rfl
  | call c next ih => exact (ih (c.run disk).1 (c.run disk).2).trans (c.limits_run disk)

theorem FileTask.limits_run (task : FileTask α) (disk : Disk) :
    (task.run disk).2.limits = disk.limits :=
  Program.limits_run (ExceptT.run task) disk

theorem FileTask.limits_of_run {task : FileTask α} {disk left : Disk}
    {result : Except FlowError α} (ran : task.run disk = (result, left)) :
    left.limits = disk.limits := by
  have kept := task.limits_run disk
  rwa [ran] at kept

end Limits

/-- The call only looks at the disk. -/
def Call.Looks {α : Type} : Call α → Prop
  | .read _ | .list _ => True
  | _ => False

namespace Program

variable {α β : Type}

/-- Whatever its calls are answered, the program only looks at the disk. -/
def Looks : Program α → Prop
  | .done _ => True
  | .call c next => c.Looks ∧ ∀ answer, (next answer).Looks

theorem Looks.bind {program : Program α} {next : α → Program β} (first : program.Looks)
    (rest : ∀ a, (next a).Looks) : (program >>= next).Looks := by
  induction program with
  | done a => exact rest a
  | call c later ih => exact ⟨first.1, fun answer => ih answer (first.2 answer)⟩

theorem Looks.run {program : Program α} (looks : program.Looks) (disk : Disk) :
    (program.run disk).2 = disk := by
  induction program with
  | done result => rfl
  | call c next ih =>
    have still : (c.run disk).2 = disk := by
      cases c with
      | read | list => rfl
      | makeDirectories | createNew | fill | write | rename | remove => cases looks.1
    rw [Program.run]
    dsimp only
    rw [still]
    exact ih _ (looks.2 _)

end Program

theorem Program.run_bind {α β : Type} (program : Program α) (next : α → Program β) (disk : Disk) :
    (program >>= next).run disk = (next (program.run disk).1).run (program.run disk).2 := by
  induction program generalizing disk with
  | done result => rfl
  | call c rest ih => exact ih (c.run disk).1 (c.run disk).2

namespace FileTask

variable {α β : Type} {disk : Disk}

theorem run_bind (task : FileTask α) (next : α → FileTask β) (disk : Disk) :
    (task >>= next).run disk =
      match task.run disk with
      | (.ok a, disk) => (next a).run disk
      | (.error e, disk) => (.error e, disk) := by
  have step := Program.run_bind (ExceptT.run task) (ExceptT.bindCont next) disk
  change Program.run (ExceptT.run task >>= ExceptT.bindCont next) disk = _
  rw [step]
  unfold run
  cases ended : Program.run (ExceptT.run task) disk with
  | mk result left => cases result <;> rfl

@[simp] theorem run_pure (a : α) (disk : Disk) : (pure a : FileTask α).run disk = (.ok a, disk) :=
  rfl

@[simp] theorem run_throw (e : FlowError) (disk : Disk) :
    (throw e : FileTask α).run disk = (.error e, disk) := rfl

@[simp] theorem run_ofExcept (result : Except FlowError α) (disk : Disk) :
    (ofExcept result).run disk = (result, disk) := rfl

@[simp] theorem run_perform (c : Call α) (disk : Disk) :
    (perform c).run disk = ((c.run disk).1.mapError .disk, (c.run disk).2) := rfl

@[simp] theorem run_attempt (c : Call α) (disk : Disk) :
    (attempt c).run disk = (.ok (c.run disk).1, (c.run disk).2) := rfl

theorem run_bind_of_ok {task : FileTask α} {a : α} {left : Disk}
    (done : task.run disk = (.ok a, left)) (next : α → FileTask β) :
    (task >>= next).run disk = (next a).run left := by
  rw [run_bind, done]

theorem run_bind_of_error {task : FileTask α} {e : FlowError} {left : Disk}
    (failed : task.run disk = (.error e, left)) (next : α → FileTask β) :
    (task >>= next).run disk = (.error e, left) := by
  rw [run_bind, failed]

def Looks (task : FileTask α) : Prop := Program.Looks (ExceptT.run task)

theorem Looks.run {task : FileTask α} (looks : Looks task) (disk : Disk) :
    (task.run disk).2 = disk :=
  Program.Looks.run looks disk

theorem Looks.bind {task : FileTask α} {next : α → FileTask β} (first : Looks task)
    (rest : ∀ a, Looks (next a)) : Looks (task >>= next) := by
  refine Program.Looks.bind first fun result => ?_
  cases result with
  | error e => exact trivial
  | ok a => exact rest a

theorem looks_ofExcept (result : Except FlowError α) : Looks (ofExcept result) := trivial

theorem looks_perform {c : Call α} (looks : c.Looks) : Looks (perform c) :=
  ⟨looks, fun _ => trivial⟩

theorem looks_attempt {c : Call α} (looks : c.Looks) : Looks (attempt c) :=
  ⟨looks, fun _ => trivial⟩

theorem looks_readText (path : Path) : Looks (readText path) := by
  refine .bind (looks_perform trivial) fun bytes => ?_
  split <;> exact trivial

end FileTask

namespace Collection

theorem looks_read (collection : Collection) (name : String) :
    FileTask.Looks (collection.read name) :=
  .bind (FileTask.looks_ofExcept _) fun path =>
    .bind (FileTask.looks_readText path) fun _ => FileTask.looks_ofExcept _

theorem looks_list (collection : Collection) : FileTask.Looks collection.list := by
  refine .bind (FileTask.looks_attempt trivial) fun listed => ?_
  split <;> exact trivial

theorem looks_environment (root : Path) (name : String) :
    FileTask.Looks (environment root name) :=
  .bind (FileTask.looks_ofExcept _) fun path => .bind (FileTask.looks_readText path) fun _ => trivial

end Collection

end Scenario
