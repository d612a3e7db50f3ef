import Mathlib.Data.List.Basic
import Mathlib.Logic.Relation
import Scenario.Proofs.Collection.Faults
/-!
Programs that are carried out on one disk at the same time.

Each program is a worker of its own. Calls of different workers come in any order; a call is carried
out in one step, and what it may have done before it is over is a step as well. A file that a worker
has opened stays the same file when it is moved: once it is removed, or another file has taken its
place, what is written to it is seen by nobody.
-/
namespace Scenario

open Relation (ReflTransGen)

namespace Call

variable {α : Type}

/-- The call as it reaches the disk: the open file is filled wherever it stands by now. At the top
stands no file that could be filled. -/
def toward (c : Call α) (file : Option Path) : Call α :=
  match c with
  | .fill _ bytes => .fill (file.getD []) bytes
  | c => c

/-- Where an open file stands after a call that was carried out. -/
def displace (c : Call α) (file : Option Path) : Option Path :=
  match c with
  | .remove path => if file = some path then none else file
  | .rename source target =>
    if file = some source then some target else if file = some target then none else file
  | _ => file

theorem displace_remove_of_ne {path : Path} {file : Option Path} (elsewhere : file ≠ some path) :
    (remove path).displace file = file :=
  if_neg elsewhere

theorem displace_rename_of_ne {source target : Path} {file : Option Path}
    (elsewhere : file ≠ some source) :
    (rename source target).displace file = (remove target).displace file :=
  if_neg elsewhere

/-- Where the file stands that a worker has open after a call of its own; with its content the file
is closed. -/
def holds (c : Call α) (file : Option Path) : Option Path :=
  match c with
  | .createNew path => some path
  | .fill .. => none
  | c => c.displace file

end Call

/-- A program that is being carried out, and where the file stands that it has opened. -/
structure Worker (α : Type) where
  program : Program α
  file : Option Path

def Worker.displaced {α β : Type} (c : Call β) (worker : Worker α) : Worker α :=
  { worker with file := c.displace worker.file }

theorem Worker.map_displaced {α β : Type} {c : Call β} {workers : List (Worker α)}
    (stays : ∀ worker ∈ workers, c.displace worker.file = worker.file) :
    workers.map (·.displaced c) = workers := by
  refine (List.map_congr_left fun worker member => ?_).trans (List.map_id workers)
  rw [displaced, stays worker member]
  rfl

structure Workshop (α : Type) where
  disk : Disk
  workers : List (Worker α)

namespace Workshop

variable {α : Type}

def start (disk : Disk) (programs : List (Program α)) : Workshop α :=
  ⟨disk, programs.map (⟨·, none⟩)⟩

/-- One step of one worker: its next call is carried out or fails, or has come some way. -/
inductive Goes (shop : Workshop α) : Workshop α → Prop where
  | done {i : Nat} {β : Type} {c : Call β} {next : Except DiskFault β → Program α}
    {file : Option Path} {answer : β} {left : Disk}
    (here : shop.workers[i]? = some ⟨.call c next, file⟩)
    (ran : (c.toward file).run shop.disk = (.ok answer, left)) :
    Goes shop ⟨left, (shop.workers.map (·.displaced c)).set i ⟨next (.ok answer), c.holds file⟩⟩
  | failed {i : Nat} {β : Type} {c : Call β} {next : Except DiskFault β → Program α}
    {file : Option Path} {fault : DiskFault} {left : Disk}
    (here : shop.workers[i]? = some ⟨.call c next, file⟩)
    (ran : (c.toward file).run shop.disk = (.error fault, left)) :
    Goes shop ⟨left, shop.workers.set i ⟨next (.error fault), file⟩⟩
  | partly {i : Nat} {β : Type} {c : Call β} {next : Except DiskFault β → Program α}
    {file : Option Path} {left : Disk} (here : shop.workers[i]? = some ⟨.call c next, file⟩)
    (breaks : (c.toward file).Breaks shop.disk left) : Goes shop ⟨left, shop.workers⟩

theorem limits_of_reachable {shop after : Workshop α} (steps : ReflTransGen Goes shop after) :
    after.disk.limits = shop.disk.limits := by
  induction steps with
  | refl => rfl
  | tail _ goes ih =>
    refine Eq.trans ?_ ih
    cases goes with
    | done _ ran | failed _ ran => exact Call.limits_of_goes (.inl ran)
    | partly _ breaks => exact Call.limits_of_goes (.inr ⟨⟨.notFound, rfl⟩, breaks⟩)

/-- What a worker's program has come to, if it has. -/
def result? (shop : Workshop α) (i : Nat) : Option α :=
  match shop.workers[i]? with
  | some ⟨.done result, _⟩ => some result
  | _ => none

theorem result?_eq_some_iff {shop : Workshop α} {i : Nat} {result : α} :
    shop.result? i = some result ↔ ∃ file, shop.workers[i]? = some ⟨.done result, file⟩ := by
  rw [result?]
  constructor
  · intro come
    split at come
    · rename_i other file here
      cases come
      exact ⟨file, here⟩
    · cases come
  · rintro ⟨file, here⟩
    rw [here]

/-- While a worker's call is carried out, whoever has no file open stays as it is. -/
theorem exists_done {shop : Workshop α} {i : Nat} {β : Type} {c : Call β}
    {next : Except DiskFault β → Program α} {file : Option Path} {answer : β} {left : Disk}
    (here : shop.workers[i]? = some ⟨.call c next, file⟩)
    (ran : (c.toward file).run shop.disk = (.ok answer, left)) :
    ∃ after, shop.Goes after ∧ after.disk = left ∧
      after.workers[i]? = some ⟨next (.ok answer), c.holds file⟩ ∧
      ∀ j program, j ≠ i → shop.workers[j]? = some ⟨program, none⟩ →
        after.workers[j]? = some ⟨program, none⟩ := by
  refine ⟨_, .done here ran, rfl, ?_, ?_⟩
  · have bound : i < shop.workers.length := (List.getElem?_eq_some_iff.mp here).1
    rw [List.getElem?_set_self (by rwa [List.length_map])]
  · intro j program apart there
    rw [List.getElem?_set_ne apart.symm, List.getElem?_map, there]
    cases c <;> rfl

/-- A worker goes on by one call of its own, or its program stays. -/
theorem Goes.program {shop after : Workshop α} (goes : shop.Goes after) {i : Nat}
    {worker : Worker α} (here : shop.workers[i]? = some worker) :
    ∃ next, after.workers[i]? = some next ∧ (next.program = worker.program ∨
      ∃ (β : Type) (c : Call β) (rest : Except DiskFault β → Program α) (answer : _) (left : Disk),
        worker.program = .call c rest ∧ next.program = rest answer ∧
          (c.toward worker.file).run shop.disk = (answer, left)) := by
  have bound : i < shop.workers.length := (List.getElem?_eq_some_iff.mp here).1
  cases goes with
  | @done k _ c rest file answer left there ran =>
    by_cases own : k = i
    · subst own
      cases here.symm.trans there
      refine ⟨_, List.getElem?_set_self (by rwa [List.length_map]), .inr ?_⟩
      exact ⟨_, c, rest, .ok answer, left, rfl, rfl, ran⟩
    · refine ⟨worker.displaced c, ?_, .inl rfl⟩
      rw [List.getElem?_set_ne own, List.getElem?_map, here]
      rfl
  | @failed k _ c rest file fault left there ran =>
    by_cases own : k = i
    · subst own
      cases here.symm.trans there
      refine ⟨_, List.getElem?_set_self bound, .inr ?_⟩
      exact ⟨_, c, rest, .error fault, left, rfl, rfl, ran⟩
    · refine ⟨worker, ?_, .inl rfl⟩
      rw [List.getElem?_set_ne own, here]
  | partly there breaks => exact ⟨worker, here, .inl rfl⟩

theorem finished {first shop : Workshop α} {i : Nat} {result : α} {file : Option Path}
    (here : first.workers[i]? = some ⟨.done result, file⟩)
    (steps : ReflTransGen Goes first shop) :
    ∃ worker, shop.workers[i]? = some worker ∧ worker.program = .done result := by
  induction steps with
  | refl => exact ⟨_, here, rfl⟩
  | tail _ goes ih =>
    obtain ⟨worker, there, done⟩ := ih
    obtain ⟨later, found, same | ⟨_, c, rest, answer, left, calls, -⟩⟩ := goes.program there
    · exact ⟨later, found, same.trans done⟩
    · cases done.symm.trans calls

/-- A program of one call, which is for no open file, is carried out at one moment. -/
theorem answered_at_once {first shop : Workshop α} {i : Nat} {β : Type} {c : Call β}
    {next : Except DiskFault β → Program α} (direct : ∀ file, c.toward file = c)
    (replies : ∀ answer, ∃ reply, next answer = .done reply)
    (begun : first.workers[i]? = some ⟨.call c next, none⟩)
    (steps : ReflTransGen Goes first shop) :
    ∃ worker, shop.workers[i]? = some worker ∧ (worker.program = .call c next ∨
      ∃ before, ReflTransGen Goes first before ∧ ReflTransGen Goes before shop ∧
        worker.program = .done ((Program.call c next).run before.disk).1) := by
  induction steps with
  | refl => exact ⟨_, begun, .inl rfl⟩
  | @tail between shop steps goes ih =>
    obtain ⟨worker, here, standing⟩ := ih
    obtain ⟨later, there, moved⟩ := goes.program here
    refine ⟨later, there, ?_⟩
    rcases standing with waiting | ⟨before, reached, leads, done⟩
    · rcases moved with same | ⟨_, own, rest, answer, left, calls, came, ran⟩
      · exact .inl (same.trans waiting)
      · cases waiting.symm.trans calls
        refine .inr ⟨between, steps, .single goes, ?_⟩
        rw [direct] at ran
        obtain ⟨reply, replied⟩ := replies answer
        rw [came, replied, Program.run, ran]
        dsimp only
        rw [replied]
        rfl
    · rcases moved with same | ⟨_, own, rest, answer, left, calls, -⟩
      · exact .inr ⟨before, reached, leads.tail goes, same.trans done⟩
      · cases done.symm.trans calls

/-- With nobody coming between, a worker's program comes to what it comes to by itself, and whoever
has no file open stays as it is. -/
def GoesAlone (shop : Workshop α) (i : Nat) (program : Program α) : Prop :=
  ∃ after, ReflTransGen Goes shop after ∧ after.disk = (program.run shop.disk).2 ∧
    after.workers[i]? = some ⟨.done (program.run shop.disk).1, none⟩ ∧
    ∀ j other, j ≠ i → shop.workers[j]? = some ⟨other, none⟩ →
      after.workers[j]? = some ⟨other, none⟩

theorem goesAlone_call {shop : Workshop α} {i : Nat} {β : Type} {c : Call β}
    {next : Except DiskFault β → Program α} {file : Option Path}
    (here : shop.workers[i]? = some ⟨.call c next, file⟩) (direct : c.toward file = c)
    (done : ∀ (answer : β) (between : Workshop α), c.run shop.disk = (.ok answer, between.disk) →
      between.workers[i]? = some ⟨next (.ok answer), c.holds file⟩ →
        between.GoesAlone i (next (.ok answer)))
    (failed : ∀ (fault : DiskFault) (between : Workshop α),
      c.run shop.disk = (.error fault, between.disk) →
        between.workers[i]? = some ⟨next (.error fault), file⟩ →
          between.GoesAlone i (next (.error fault))) :
    shop.GoesAlone i (.call c next) := by
  rcases ran : c.run shop.disk with ⟨answer, left⟩
  have reached : (c.toward file).run shop.disk = (answer, left) := by rw [direct, ran]
  cases answer with
  | ok answer =>
    obtain ⟨between, first, rfl, there, others⟩ := exists_done here reached
    obtain ⟨after, steps, stands, finished, kept⟩ := done answer between ran there
    refine ⟨after, .head first steps, ?_, ?_, fun j other apart closed =>
      kept j other apart (others j other apart closed)⟩
    · rw [stands, Program.run, ran]
    · rw [finished, Program.run, ran]
  | error fault =>
    have bound : i < shop.workers.length := (List.getElem?_eq_some_iff.mp here).1
    obtain ⟨after, steps, stands, finished, kept⟩ := failed fault
      ⟨left, shop.workers.set i ⟨next (.error fault), file⟩⟩ ran (List.getElem?_set_self bound)
    refine ⟨after, .head (.failed here reached) steps, ?_, ?_, fun j other apart closed =>
      kept j other apart (by rwa [List.getElem?_set_ne apart.symm])⟩
    · rw [stands, Program.run, ran]
    · rw [finished, Program.run, ran]

end Workshop

end Scenario
