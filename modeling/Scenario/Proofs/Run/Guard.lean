import Mathlib.Order.Nat
import Scenario.Proofs.Run.Step
import Scenario.Run.Session
/-!
What ends a wait.

Three things can end a wait: the cancellation of the run, its deadline, and the operation that is
waited for, when it has its answer or cancels the run itself. The earliest of them does; what has
happened before the wait began counts as happening then. Of two at the same time the cancellation
comes first and then the deadline. A run that is cancelled or late starts nothing.

A delay waits for a timer, which runs for thirty years at most. A shorter delay is over in time
exactly if it ends before the deadline and before any cancellation.
-/
namespace Scenario

def Look.ended {α : Type} : Look α → Option (Except Interruption α)
  | .waiting => none
  | .stopped reason => some (.error reason)
  | .answered answer => some (.ok answer)

namespace Operation

variable {α : Type} {operation : Operation α} {deadline : Nat} {cancelAt : Option Nat} {now : Nat}

/-- When the operation has its answer or cancels the run, if it ever does. -/
def ends? (operation : Operation α) : Option Nat :=
  if operation.cancels || operation.answer.isSome then some operation.due else none

/-- What ends a wait happens at this time. -/
def EndsAt (operation : Operation α) (deadline : Nat) (cancelAt : Option Nat) (event : Nat) : Prop :=
  cancelAt = some event ∨ event = deadline ∨ operation.ends? = some event

/-- When something ends a wait that begins now. -/
def moments (operation : Operation α) (deadline : Nat) (cancelAt : Option Nat) (now : Nat) :
    Set Nat :=
  {moment | ∃ event, operation.EndsAt deadline cancelAt event ∧ moment = max now event}

def lookAt (operation : Operation α) (deadline : Nat) (cancelAt : Option Nat) (time : Nat) :
    Look α :=
  operation.look ⟨deadline, cancelledBy cancelAt time⟩ time

theorem cancelledBy_eq_true_iff {time : Nat} :
    cancelledBy cancelAt time = true ↔ ∃ event, cancelAt = some event ∧ event ≤ time := by
  cases cancelAt <;> simp [cancelledBy]

section Looks

variable {time : Nat}

theorem lookAt_of_cancelled (cancelled : cancelledBy cancelAt time = true) :
    operation.lookAt deadline cancelAt time = .stopped .cancelled :=
  look_of_interrupted ((Limits.interruption?_eq_cancelled_iff _ time).mpr cancelled)

theorem lookAt_of_late (free : cancelledBy cancelAt time = false) (late : deadline ≤ time) :
    operation.lookAt deadline cancelAt time = .stopped .timedOut :=
  look_of_interrupted ((Limits.interruption?_eq_timedOut_iff _ time).mpr ⟨free, late⟩)

theorem lookAt_of_ended (free : cancelledBy cancelAt time = false) (early : time < deadline)
    (due : operation.due ≤ time) :
    operation.lookAt deadline cancelAt time =
      if operation.cancels then .stopped .cancelled
      else operation.answer.elim .waiting .answered := by
  rw [lookAt, look_of_free ((Limits.interruption?_eq_none_iff _ time).mpr ⟨free, early⟩)]
  cases cancels : operation.cancels with
  | true => simp [hasCancelled, cancels, due]
  | false => cases answer : operation.answer <;> simp [hasCancelled, cancels, due]

theorem lookAt_of_pending (free : cancelledBy cancelAt time = false) (early : time < deadline)
    (pending : time < operation.due) : operation.lookAt deadline cancelAt time = .waiting := by
  rw [lookAt, look_of_free ((Limits.interruption?_eq_none_iff _ time).mpr ⟨free, early⟩)]
  cases answer : operation.answer <;> simp [hasCancelled, Nat.not_le.mpr pending]

theorem ends?_eq_some_iff {event : Nat} : operation.ends? = some event ↔
    (operation.cancels = true ∨ operation.answer.isSome = true) ∧ operation.due = event := by
  simp [ends?]

theorem ends?_eq_none_iff :
    operation.ends? = none ↔ operation.cancels = false ∧ operation.answer = none := by
  simp [ends?]

theorem lt_of_waiting (waiting : operation.lookAt deadline cancelAt time = .waiting) {event : Nat}
    (ends : operation.EndsAt deadline cancelAt event) : time < event := by
  by_contra passed
  have passed : event ≤ time := Nat.not_lt.mp passed
  cases free : cancelledBy cancelAt time with
  | true => cases (lookAt_of_cancelled free).symm.trans waiting
  | false =>
    rcases Nat.lt_or_ge time deadline with early | late
    swap
    · cases (lookAt_of_late free late).symm.trans waiting
    rcases ends with cancel | rfl | own
    · have cancelled := cancelledBy_eq_true_iff.mpr ⟨event, cancel, passed⟩
      cases cancelled.symm.trans free
    · exact absurd early (Nat.not_lt.mpr passed)
    · obtain ⟨speaks, rfl⟩ := ends?_eq_some_iff.mp own
      rw [lookAt_of_ended free early passed] at waiting
      cases cancels : operation.cancels <;> cases answer : operation.answer <;>
        simp [cancels, answer] at speaks waiting

theorem waiting_of_lt (later : ∀ event, operation.EndsAt deadline cancelAt event → time < event) :
    operation.lookAt deadline cancelAt time = .waiting := by
  have early : time < deadline := later deadline (.inr (.inl rfl))
  have free : cancelledBy cancelAt time = false := by
    rw [← Bool.not_eq_true, cancelledBy_eq_true_iff]
    rintro ⟨event, cancel, passed⟩
    exact absurd (later event (.inl cancel)) (Nat.not_lt.mpr passed)
  rcases Nat.lt_or_ge time operation.due with pending | due
  · exact lookAt_of_pending free early pending
  -- An operation that is due and still waited for never says anything.
  · have silent : operation.ends? = none := by
      refine Option.eq_none_iff_forall_ne_some.mpr fun event own => ?_
      obtain ⟨-, rfl⟩ := ends?_eq_some_iff.mp own
      exact absurd (later operation.due (.inr (.inr own))) (Nat.not_lt.mpr due)
    obtain ⟨mute, unanswered⟩ := ends?_eq_none_iff.mp silent
    rw [lookAt_of_ended free early due, mute, unanswered]
    rfl

/-- The wait goes on at a time exactly if nothing has ended it by then. -/
theorem lookAt_waiting_iff : operation.lookAt deadline cancelAt time = .waiting ↔
    ∀ event, operation.EndsAt deadline cancelAt event → time < event :=
  ⟨fun waiting _ ends => lt_of_waiting waiting ends, waiting_of_lt⟩

end Looks

section Waits

variable {moment : Nat}

theorem le_of_mem_moments (member : moment ∈ operation.moments deadline cancelAt now) :
    now ≤ moment := by
  obtain ⟨event, -, rfl⟩ := member
  exact Nat.le_max_left ..

theorem exists_isLeast (operation : Operation α) (deadline : Nat) (cancelAt : Option Nat)
    (now : Nat) : ∃ moment, IsLeast (operation.moments deadline cancelAt now) moment := by
  classical
  have some : (operation.moments deadline cancelAt now).Nonempty :=
    ⟨max now deadline, deadline, .inr (.inl rfl), rfl⟩
  exact ⟨_, Nat.isLeast_find some⟩

/-- Before the earliest moment the wait goes on. -/
theorem lookAt_waiting_iff_lt (least : IsLeast (operation.moments deadline cancelAt now) moment)
    {time : Nat} (from_ : now ≤ time) :
    operation.lookAt deadline cancelAt time = .waiting ↔ time < moment := by
  rw [lookAt_waiting_iff]
  constructor
  · intro later
    obtain ⟨event, ends, rfl⟩ := least.1
    have after := later event ends
    omega
  · intro before event ends
    have bound := least.2 ⟨event, ends, rfl⟩
    omega

theorem isLeast_of_le (least : IsLeast (operation.moments deadline cancelAt now) moment)
    {later : Nat} (past : now < later) (within : later ≤ moment) :
    IsLeast (operation.moments deadline cancelAt later) moment := by
  have bound (event : Nat) (ends : operation.EndsAt deadline cancelAt event) : moment ≤ event := by
    have least := least.2 ⟨event, ends, rfl⟩
    omega
  constructor
  · obtain ⟨event, ends, same⟩ := least.1
    have least := bound event ends
    exact ⟨event, ends, by omega⟩
  · rintro other ⟨event, ends, rfl⟩
    exact (bound event ends).trans (Nat.le_max_right ..)

/-- While a wait goes on, the next look is not after the earliest moment. -/
theorem nextLook_le (least : IsLeast (operation.moments deadline cancelAt now) moment)
    (before : now < moment) : operation.nextLook deadline cancelAt now ≤ moment := by
  obtain ⟨event, ends, same⟩ := least.1
  obtain rfl : moment = event := by omega
  have wakes : operation.wake ⟨deadline, false⟩ now ≤ deadline := by
    unfold wake
    split
    · exact Nat.min_le_right ..
    · exact le_rfl
  unfold nextLook
  rcases ends with cancel | rfl | own
  · rw [cancel]
    dsimp only
    rw [if_pos before]
    exact Nat.min_le_left ..
  · cases cancelAt with
    | none => exact wakes
    | some time => dsimp only; split <;> omega
  · obtain ⟨-, rfl⟩ := ends?_eq_some_iff.mp own
    have due : operation.wake ⟨deadline, false⟩ now ≤ operation.due := by
      unfold wake
      rw [if_pos before]
      exact Nat.min_le_left ..
    cases cancelAt with
    | none => exact due
    | some time => dsimp only; split <;> omega

/-- A wait is over at the earliest moment, with what a look at that time says. -/
theorem await_of_isLeast (least : IsLeast (operation.moments deadline cancelAt now) moment) :
    ∃ result, (operation.lookAt deadline cancelAt moment).ended = some result ∧
      operation.await deadline cancelAt now = (moment, result) := by
  have past {now : Nat} (least : IsLeast (operation.moments deadline cancelAt now) moment)
      (ended : operation.lookAt deadline cancelAt now ≠ .waiting) : moment = now := by
    have reached := (lookAt_waiting_iff_lt least le_rfl).not.mp ended
    have begun := le_of_mem_moments least.1
    omega
  -- By induction on the looks: each that says to wait is before the moment, and so is the next one
  -- unless it is at the moment.
  fun_induction operation.await deadline cancelAt now with
  | case1 now reason stopped =>
    obtain rfl := past least (by rw [lookAt, stopped]; nofun)
    exact ⟨.error reason, by rw [lookAt, stopped]; rfl, rfl⟩
  | case2 now answer answered =>
    obtain rfl := past least (by rw [lookAt, answered]; nofun)
    exact ⟨.ok answer, by rw [lookAt, answered]; rfl, rfl⟩
  | case3 now waiting ih =>
    have before := (lookAt_waiting_iff_lt least le_rfl).mp waiting
    exact ih (isLeast_of_le least (nextLook_bounds waiting).1 (nextLook_le least before))

/-- How a wait that begins now ends at a moment. -/
structure SettlesAt (operation : Operation α) (deadline : Nat) (cancelAt : Option Nat)
    (now moment : Nat) : Prop where
  least : IsLeast (operation.moments deadline cancelAt now) moment
  /-- Nothing is seen of the end before the moment, however often one looks. -/
  waits : ∀ time, now ≤ time →
    (operation.lookAt deadline cancelAt time = .waiting ↔ time < moment)
  cancelled : (∃ event, cancelAt = some event ∧ max now event = moment) →
    operation.await deadline cancelAt now = (moment, .error .cancelled)
  timedOut : (∀ event, cancelAt = some event → max now event ≠ moment) →
    max now deadline = moment → operation.await deadline cancelAt now = (moment, .error .timedOut)
  /-- The operation may cancel the run itself, and has then no answer to give. -/
  cancels : (∀ event, cancelAt = some event → max now event ≠ moment) →
    max now deadline ≠ moment → operation.cancels = true →
      operation.await deadline cancelAt now = (moment, .error .cancelled)
  answered : (∀ event, cancelAt = some event → max now event ≠ moment) →
    max now deadline ≠ moment → operation.cancels = false →
      ∃ answer, operation.answer = some answer ∧ max now operation.due = moment ∧
        operation.await deadline cancelAt now = (moment, .ok answer)
  /-- If the run is cancelled or late already, the operation does not matter. -/
  unstarted : cancelledBy cancelAt now = true ∨ deadline ≤ now → ∀ other : Operation α,
    other.await deadline cancelAt now = operation.await deadline cancelAt now

theorem cancelledBy_iff_of_isLeast (least : IsLeast (operation.moments deadline cancelAt now) moment) :
    cancelledBy cancelAt moment = true ↔ ∃ event, cancelAt = some event ∧ max now event = moment := by
  rw [cancelledBy_eq_true_iff]
  refine exists_congr fun event => and_congr_right fun cancel => ?_
  have bound := least.2 ⟨event, .inl cancel, rfl⟩
  have begun := le_of_mem_moments least.1
  omega

theorem interruption?_of_interrupted
    (interrupted : cancelledBy cancelAt now = true ∨ deadline ≤ now) :
    Limits.interruption? ⟨deadline, cancelledBy cancelAt now⟩ now =
      some (if cancelledBy cancelAt now then .cancelled else .timedOut) := by
  cases cancelled : cancelledBy cancelAt now with
  | true => exact (Limits.interruption?_eq_cancelled_iff _ now).mpr rfl
  | false =>
    rw [cancelled] at interrupted
    exact (Limits.interruption?_eq_timedOut_iff _ now).mpr ⟨rfl, interrupted.resolve_left nofun⟩

theorem await_of_ended {result : Except Interruption α}
    (ended : (operation.lookAt deadline cancelAt now).ended = some result) :
    operation.await deadline cancelAt now = (now, result) := by
  rw [await]
  split <;> rename_i seen <;> rw [lookAt, seen] at ended <;> cases ended <;> rfl

theorem await_of_interrupted (interrupted : cancelledBy cancelAt now = true ∨ deadline ≤ now) :
    operation.await deadline cancelAt now =
      (now, .error (if cancelledBy cancelAt now then .cancelled else .timedOut)) := by
  refine await_of_ended ?_
  rw [lookAt, look_of_interrupted (interruption?_of_interrupted interrupted)]
  rfl

/-- A wait is settled by what happens first. -/
theorem settlesAt (least : IsLeast (operation.moments deadline cancelAt now) moment) :
    operation.SettlesAt deadline cancelAt now moment := by
  obtain ⟨result, ended, awaited⟩ := await_of_isLeast least
  have cancelledBy_iff := cancelledBy_iff_of_isLeast least
  have begun := le_of_mem_moments least.1
  have late := least.2 ⟨deadline, .inr (.inl rfl), rfl⟩
  have free (apart : ∀ event, cancelAt = some event → max now event ≠ moment) :
      cancelledBy cancelAt moment = false := by
    rw [← Bool.not_eq_true, cancelledBy_iff]
    rintro ⟨event, cancel, same⟩
    exact apart event cancel same
  -- What ends the wait otherwise is the operation, which is due by then.
  have due (apart : ∀ event, cancelAt = some event → max now event ≠ moment)
      (early : max now deadline ≠ moment) : operation.due ≤ moment := by
    by_contra pending
    rw [lookAt_of_pending (free apart) (by omega) (Nat.not_le.mp pending)] at ended
    cases ended
  constructor
  · exact least
  · exact fun time from_ => lookAt_waiting_iff_lt least from_
  · intro cancel
    rw [lookAt_of_cancelled (cancelledBy_iff.mpr cancel)] at ended
    cases ended
    exact awaited
  · intro apart reached
    rw [lookAt_of_late (free apart) (by omega)] at ended
    cases ended
    exact awaited
  · intro apart early cancels
    rw [lookAt_of_ended (free apart) (by omega) (due apart early), cancels] at ended
    cases ended
    exact awaited
  · intro apart early silent
    rw [lookAt_of_ended (free apart) (by omega) (due apart early), silent] at ended
    cases answer : operation.answer with
    | none =>
      rw [answer] at ended
      cases ended
    | some given =>
      rw [answer] at ended
      cases ended
      have bound := least.2 ⟨operation.due, .inr (.inr (by simp [ends?, answer])), rfl⟩
      have past := due apart early
      exact ⟨given, rfl, by omega, awaited⟩
  · intro interrupted other
    rw [await_of_interrupted interrupted, await_of_interrupted interrupted]

end Waits

section Sleeping

/-- A timer ends before the deadline and before any cancellation. -/
def InTime (duration deadline : Nat) (cancelAt : Option Nat) (now : Nat) : Prop :=
  timerEnd duration now < deadline ∧ ∀ event, cancelAt = some event → timerEnd duration now < event

/-- A timer that ends in time is waited for to its end, and any other is not. -/
theorem sleep_cases (duration deadline : Nat) (cancelAt : Option Nat) (now : Nat) :
    InTime duration deadline cancelAt now ∧
        (sleep duration now).await deadline cancelAt now = (timerEnd duration now, .ok ()) ∨
      ¬ InTime duration deadline cancelAt now ∧
        ∃ time reason, (sleep duration now).await deadline cancelAt now = (time, .error reason) := by
  obtain ⟨moment, least⟩ := exists_isLeast (sleep duration now) deadline cancelAt now
  have settles := settlesAt least
  have begun : now ≤ timerEnd duration now := Nat.le_add_right ..
  have rings := least.2 ⟨timerEnd duration now, .inr (.inr rfl), rfl⟩
  by_cases cancel : ∃ event, cancelAt = some event ∧ max now event = moment
  · refine .inr ⟨?_, _, _, settles.cancelled cancel⟩
    rintro ⟨-, free⟩
    obtain ⟨event, planned, same⟩ := cancel
    have later := free event planned
    omega
  have apart : ∀ event, cancelAt = some event → max now event ≠ moment :=
    fun event planned same => cancel ⟨event, planned, same⟩
  by_cases late : max now deadline = moment
  · refine .inr ⟨?_, _, _, settles.timedOut apart late⟩
    rintro ⟨early, -⟩
    omega
  · obtain ⟨answer, -, due, awaited⟩ := settles.answered apart late rfl
    have rung : max now (timerEnd duration now) = moment := due
    obtain rfl : timerEnd duration now = moment := by omega
    refine .inl ⟨⟨?_, fun event planned => ?_⟩, awaited⟩
    · have bound := least.2 ⟨deadline, .inr (.inl rfl), rfl⟩
      omega
    · have bound := least.2 ⟨event, .inl planned, rfl⟩
      have other := apart event planned
      omega

end Sleeping

end Operation

namespace Suspended

/-- Waits for a suspended step, when the run is cancelled at some time. -/
def awaitUntil (step : Suspended) (context : Context) (cancelAt : Option Nat) (now : Nat) :
    Nat × StepResult :=
  match step with
  | .delay duration operation =>
    match operation.await context.deadline cancelAt now with
    | (now, .ok ()) => (now, .ok (.ofDelay duration, context))
    | (now, .error reason) => (now, .error (.interrupted reason))
  | .request node sent operation =>
    match operation.await context.deadline cancelAt now with
    | (now, .ok result) => (now, finishRequest context node sent result)
    | (now, .error reason) => (now, .error (.interrupted reason))

theorem await_eq_awaitUntil (step : Suspended) (context : Context) (now : Nat) :
    step.await context now =
      step.awaitUntil context (if context.cancelled then some now else none) now := by
  cases step <;> rfl

end Suspended

namespace Node

/-- Carries out the step of a node to its end, when the run is cancelled at some time. -/
def carriedOut (node : Node) (context : Context) (cancelAt : Option Nat) (now : Nat)
    (transport : Transport) : (Nat × StepResult) × Transport :=
  let context := { context with cancelled := Operation.cancelledBy cancelAt now }
  match node.start node.kind context now transport with
  | (.finished result, transport) => ((now, result), transport)
  | (.suspended step, transport) => (step.awaitUntil context cancelAt now, transport)

/-- In a session the run is cancelled now or never. -/
theorem carryOut_eq_carriedOut (session : Session) (node : Node) :
    session.carryOut node.kind node =
      match node.carriedOut session.context
        (if session.context.cancelled then some session.clock else none) session.clock
        session.transport with
      | ((clock, .ok (report, context)), transport) => (.ok report, ⟨context, clock, transport⟩)
      | ((clock, .error e), transport) =>
        (.error e, Session.after ⟨session.context, clock, transport⟩ e) := by
  have same : Operation.cancelledBy
      (if session.context.cancelled then some session.clock else none) session.clock =
        session.context.cancelled := by
    cases session.context.cancelled <;> simp [Operation.cancelledBy]
  rw [carriedOut, Session.carryOut, same]
  dsimp only
  rcases node.start node.kind session.context session.clock session.transport with
    ⟨finished | step, transport⟩
  · cases finished <;> rfl
  · dsimp only
    rw [Suspended.await_eq_awaitUntil]
    rcases step.awaitUntil session.context
      (if session.context.cancelled then some session.clock else none) session.clock with
        ⟨clock, result⟩
    cases result <;> rfl

/-- A delay waits for its timer, whether the run may go on or not. -/
theorem start_delay {node : Node} {duration : UInt64} (delays : node.step = .delay duration)
    (context : Context) (now : Nat) (transport : Transport) :
    node.start node.kind context now transport =
      (match (Operation.sleep duration.toNat now).look context.limits now with
        | .waiting => .suspended (.delay duration (.sleep duration.toNat now))
        | .stopped reason => .finished (.error (.interrupted reason))
        | .answered () => .finished (.ok (.ofDelay duration, context)), transport) := by
  rw [start, if_pos rfl, delays, Step.start]
  cases limit : context.limits.interruption? now with
  | some reason => rw [Operation.look_of_interrupted limit]
  | none => rfl

theorem carriedOut_delay {node : Node} {duration : UInt64} (delays : node.step = .delay duration)
    (context : Context) (cancelAt : Option Nat) (now : Nat) (transport : Transport) :
    node.carriedOut context cancelAt now transport =
      (Suspended.awaitUntil (.delay duration (.sleep duration.toNat now))
        { context with cancelled := Operation.cancelledBy cancelAt now } cancelAt now, transport) := by
  rw [carriedOut, start_delay delays]
  dsimp only [Context.limits]
  cases seen : (Operation.sleep duration.toNat now).look
      ⟨context.deadline, Operation.cancelledBy cancelAt now⟩ now with
  | waiting => rfl
  | stopped reason =>
    rw [Suspended.awaitUntil, Operation.await_of_ended (by rw [Operation.lookAt, seen]; rfl)]
  | answered answer =>
    rw [Suspended.awaitUntil, Operation.await_of_ended (by rw [Operation.lookAt, seen]; rfl)]

/-- A run that is cancelled or late sends nothing and waits for nothing. A request that cannot be
filled in is refused before that. -/
theorem carriedOut_of_interrupted {node : Node} {context : Context} {cancelAt : Option Nat}
    {now : Nat} (waits : node.kind = .delay ∨ node.kind = .request)
    (interrupted : Operation.cancelledBy cancelAt now = true ∨ context.deadline ≤ now)
    (transport : Transport) :
    ∃ e, node.carriedOut context cancelAt now transport = ((now, .error e), transport) ∧
      (e = .interrupted (if Operation.cancelledBy cancelAt now then .cancelled else .timedOut) ∨
        ∃ data fault, node.step = .request data ∧
          data.fill context.vars context.credentials = .error fault ∧ e = .invalid fault) := by
  have limit := Operation.interruption?_of_interrupted interrupted
  cases step : node.step with
  | delay duration =>
    refine ⟨_, ?_, .inl rfl⟩
    rw [carriedOut_delay step, Suspended.awaitUntil, Operation.await_of_interrupted interrupted]
  | request data =>
    cases filled : data.fill context.vars context.credentials with
    | error fault =>
      refine ⟨_, ?_, .inr ⟨data, fault, rfl, filled, rfl⟩⟩
      simp [carriedOut, start, step, Step.start, filled]
    | ok request =>
      refine ⟨_, ?_, .inl rfl⟩
      simp [carriedOut, start, step, Step.start, filled, Context.limits, limit]
  | assertion | assignment | output | auth => simp [Node.kind, step, Step.kind] at waits

/-- A delay is over in time exactly if its timer is, and then when its timer is. -/
theorem carriedOut_delay_iff {node : Node} {duration : UInt64} (delays : node.step = .delay duration)
    (context : Context) (cancelAt : Option Nat) (now : Nat) (transport : Transport) :
    ((∃ time done, (node.carriedOut context cancelAt now transport).1 = (time, .ok done)) ↔
      Operation.InTime duration.toNat context.deadline cancelAt now) ∧
    ∀ time done, (node.carriedOut context cancelAt now transport).1 = (time, .ok done) →
      time = timerEnd duration.toNat now ∧ done.1 = .ofDelay duration := by
  rw [carriedOut_delay delays, Suspended.awaitUntil]
  dsimp only
  rcases Operation.sleep_cases duration.toNat context.deadline cancelAt now with
    ⟨inTime, awaited⟩ | ⟨late, time, reason, awaited⟩
  · rw [awaited]
    refine ⟨⟨fun _ => inTime, fun _ => ⟨_, _, rfl⟩⟩, ?_⟩
    rintro time done ⟨⟩
    exact ⟨rfl, rfl⟩
  · rw [awaited]
    refine ⟨⟨?_, fun inTime => absurd inTime late⟩, ?_⟩
    · rintro ⟨time, done, ⟨⟩⟩
    · rintro time done ⟨⟩

end Node

/-- Whatever is waited for is settled by what happens first: a cancellation before the deadline, the
deadline before the operation, and the operation only if it is alone; a run that is cancelled or late
starts nothing. A delay of up to thirty years is over exactly if it ends before the deadline and
before any cancellation; a longer one ends after thirty years. -/
theorem waits_settle {α : Type} (operation : Operation α) (node : Node) (context : Context)
    (cancelAt : Option Nat) (now : Nat) (transport : Transport) :
    (∃ moment, operation.SettlesAt context.deadline cancelAt now moment) ∧
    (node.kind = .delay ∨ node.kind = .request →
      Operation.cancelledBy cancelAt now = true ∨ context.deadline ≤ now →
      ∃ e, node.carriedOut context cancelAt now transport = ((now, .error e), transport) ∧
        (e = .interrupted (if Operation.cancelledBy cancelAt now then .cancelled else .timedOut) ∨
          ∃ data fault, node.step = .request data ∧
            data.fill context.vars context.credentials = .error fault ∧ e = .invalid fault)) ∧
    ∀ duration : UInt64, node.step = .delay duration →
      let finish := now + min duration.toNat longestWait
      ((∃ time done, (node.carriedOut context cancelAt now transport).1 = (time, .ok done)) ↔
        finish < context.deadline ∧ ∀ event, cancelAt = some event → finish < event) ∧
      ∀ time done, (node.carriedOut context cancelAt now transport).1 = (time, .ok done) →
        time = finish ∧ done.1 = .ofDelay duration := by
  refine ⟨?_, ?_, ?_⟩
  · obtain ⟨moment, least⟩ := operation.exists_isLeast context.deadline cancelAt now
    exact ⟨moment, Operation.settlesAt least⟩
  · intro waits interrupted
    exact Node.carriedOut_of_interrupted waits interrupted transport
  · intro duration delays
    exact Node.carriedOut_delay_iff delays context cancelAt now transport

def pauseNode (duration : UInt64) : Node := ⟨"pause", .delay duration, {}⟩

/-- The same delay with a millisecond to spare and with none. -/
theorem pause_settles :
    (∃ time done, ((pauseNode 5).carriedOut (.start {} 6 0) (some 6) 0 .offline).1 =
        (time, .ok done)) ∧
      ¬ (∃ time done, ((pauseNode 5).carriedOut (.start {} 5 0) none 0 .offline).1 =
        (time, .ok done)) ∧
      ¬ ∃ time done, ((pauseNode 5).carriedOut (.start {} 6 0) (some 5) 0 .offline).1 =
        (time, .ok done) := by
  have settles (deadline : UInt64) (cancelAt : Option Nat) :=
    ((waits_settle (Operation.sleep 5 0) (pauseNode 5) (.start {} deadline 0) cancelAt 0 .offline).2.2
      5 rfl).1
  refine ⟨(settles 6 (some 6)).mpr ⟨by decide, by rintro event ⟨⟩; decide⟩, ?_, ?_⟩
  · exact fun finished => absurd ((settles 5 none).mp finished).1 (by decide)
  · exact fun finished => absurd (((settles 6 (some 5)).mp finished).2 5 rfl) (by decide)

/-- A delay that would last until the deadline is over a millisecond before it. -/
theorem long_pause_cut_short :
    (∃ done, ((pauseNode 946080000001).carriedOut (.start {} 946080000001 0) none 0 .offline).1 =
        (946080000000, .ok done)) ∧
      ¬ 0 + 946080000001 < (Context.start {} 946080000001 0).deadline := by
  refine ⟨?_, by decide⟩
  have delays : (pauseNode 946080000001).step = .delay 946080000001 := rfl
  obtain ⟨inTime, ends⟩ :=
    Node.carriedOut_delay_iff delays (.start {} 946080000001 0) none 0 .offline
  obtain ⟨time, done, finished⟩ := inTime.mpr ⟨by decide, nofun⟩
  obtain ⟨rfl, -⟩ := ends time done finished
  exact ⟨done, finished⟩

end Scenario
