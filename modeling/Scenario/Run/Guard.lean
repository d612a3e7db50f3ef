/-!
Waiting within limits.

A run may be cancelled and has a deadline. Whatever it waits for is an operation, which is given up
as soon as the run is cancelled or the deadline is reached; an operation that ends at the very
deadline is too late. Time is counted in milliseconds.

A timer runs for thirty years at most, and a wait for longer ends when its timer does. A deadline
is a point in time and may be as late as it likes.
-/
namespace Scenario

/-- Thirty years of 365 days. -/
def longestWait : Nat := 946080000000

def timerEnd (duration now : Nat) : Nat := now + min duration longestWait

inductive Interruption where
  | cancelled
  | timedOut
deriving DecidableEq, Repr

structure Limits where
  deadline : Nat
  cancelled : Bool
deriving DecidableEq, Repr

namespace Limits

/-- The reason to stop now, if there is one; cancellation comes before the deadline. -/
def interruption? (limits : Limits) (now : Nat) : Option Interruption :=
  if limits.cancelled then some .cancelled
  else if limits.deadline ≤ now then some .timedOut
  else none

def remaining (limits : Limits) (now : Nat) : Nat := limits.deadline - now

end Limits

/-- Something to wait for. At the time `due` it cancels the run, if `cancels` says so, and then it
has its answer; without an answer it goes on for ever. -/
structure Operation (α : Type) where
  due : Nat
  cancels : Bool
  answer : Option α
deriving DecidableEq, Repr

inductive Look (α : Type) where
  | waiting
  | stopped (reason : Interruption)
  | answered (answer : α)
deriving DecidableEq, Repr

namespace Operation
variable {α : Type}

def sleep (duration now : Nat) : Operation Unit := ⟨timerEnd duration now, false, some ()⟩

/-- A look at an operation: the limits are looked at first, and again after the answer. -/
def look (operation : Operation α) (limits : Limits) (now : Nat) : Look α :=
  match limits.interruption? now with
  | some reason => .stopped reason
  | none =>
    if now < operation.due then .waiting
    else
      match Limits.interruption? ⟨limits.deadline, operation.cancels⟩ now with
      | some reason => .stopped reason
      | none =>
        match operation.answer with
        | some answer => .answered answer
        | none => .waiting

def wake (operation : Operation α) (limits : Limits) (now : Nat) : Nat :=
  if now < operation.due then min operation.due limits.deadline else limits.deadline

theorem lt_of_look_waiting {operation : Operation α} {limits : Limits} {now : Nat}
    (waiting : operation.look limits now = .waiting) : now < limits.deadline := by
  apply Decidable.byContradiction
  intro late
  have reached : limits.deadline ≤ now := Nat.le_of_not_lt late
  unfold look Limits.interruption? at waiting
  split at waiting
  · cases waiting
  · rename_i free
    split at free
    · cases free
    · simp at free

/-- A waiting operation is looked at again later, and not after the deadline. -/
theorem wake_bounds {operation : Operation α} {limits : Limits} {now : Nat}
    (waiting : operation.look limits now = .waiting) :
    now < operation.wake limits now ∧ operation.wake limits now ≤ limits.deadline := by
  have early := lt_of_look_waiting waiting
  unfold wake
  split <;> omega

/-- Whether a cancellation that comes at some time, if ever, has come. -/
def cancelledBy (cancelAt : Option Nat) (now : Nat) : Bool := cancelAt.any (· ≤ now)

/-- The next time to look, when the run will be cancelled at some time. -/
def nextLook (operation : Operation α) (deadline : Nat) (cancelAt : Option Nat)
    (now : Nat) : Nat :=
  let wake := operation.wake ⟨deadline, false⟩ now
  match cancelAt with
  | some time => if now < time then min time wake else wake
  | none => wake

theorem nextLook_bounds {operation : Operation α} {deadline now : Nat} {cancelAt : Option Nat}
    (waiting : operation.look ⟨deadline, cancelledBy cancelAt now⟩ now = .waiting) :
    now < operation.nextLook deadline cancelAt now
      ∧ operation.nextLook deadline cancelAt now ≤ deadline := by
  have early : now < deadline := lt_of_look_waiting waiting
  have wake : now < operation.wake ⟨deadline, false⟩ now
      ∧ operation.wake ⟨deadline, false⟩ now ≤ deadline := by
    unfold Operation.wake
    split <;> simp only <;> omega
  unfold nextLook
  cases cancelAt with
  | none => simpa using wake
  | some time =>
    simp only
    split <;> omega

/-- Waits for an operation from one look to the next, and says when the waiting ended and how. The
run has the deadline `deadline` and is cancelled at the time `cancelAt`, if that is given. -/
def await (operation : Operation α) (deadline : Nat) (cancelAt : Option Nat) (now : Nat) :
    Nat × Except Interruption α :=
  match _seen : operation.look ⟨deadline, cancelledBy cancelAt now⟩ now with
  | .stopped reason => (now, .error reason)
  | .answered answer => (now, .ok answer)
  | .waiting => operation.await deadline cancelAt (operation.nextLook deadline cancelAt now)
termination_by deadline - now
decreasing_by
  have bounds := nextLook_bounds _seen
  omega

end Operation

end Scenario
