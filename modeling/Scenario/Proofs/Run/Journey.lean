import Mathlib.Data.List.ModifyLast
import Mathlib.Logic.Relation
import Scenario.Proofs.Run.Outcome
/-!
Runs and their surroundings.

A journey is a run together with its transport, the clock, the token by which it is cancelled, and
the visits it has made. It moves when the run is looked at, when somebody cancels it, and when time
passes; a list of moves in any order is a finite part of a run, and every such part is one. What
a look can do is said once, by `Journey.Turn`; facts about all journeys follow by induction.
-/
namespace Scenario

open Relation (ReflGen ReflTransGen)

/-- A node whose step was started: when, in which context, and with which result, once there is
one. -/
structure Visit where
  node : Node
  time : Nat
  context : Context
  result : Option StepResult

/-- The visits after the last one has got its result. -/
def Visit.settle (visits : List Visit) (result : StepResult) : List Visit :=
  visits.modifyLast fun visit => { visit with result := some result }

@[simp] theorem Visit.settle_append (visits : List Visit) (visit : Visit) (result : StepResult) :
    settle (visits ++ [visit]) result = visits ++ [{ visit with result := some result }] :=
  List.modifyLast_concat _ visit visits

theorem Visit.map_node_settle (visits : List Visit) (result : StepResult) :
    (settle visits result).map (·.node) = visits.map (·.node) := by
  rcases visits.eq_nil_or_concat' with rfl | ⟨before, last, rfl⟩
  · rfl
  · simp

theorem Visit.forall_mem_settle {visits : List Visit} {result : StepResult} {p : Visit → Prop}
    (kept : ∀ visit, p visit → p { visit with result := some result })
    (all : ∀ visit ∈ visits, p visit) : ∀ visit ∈ settle visits result, p visit := by
  rcases visits.eq_nil_or_concat' with rfl | ⟨before, last, rfl⟩
  · exact all
  · rw [settle_append]
    intro visit member
    rcases List.mem_append.mp member with earlier | final
    · exact all visit (List.mem_append_left [last] earlier)
    · rw [List.mem_singleton.mp final]
      exact kept last (all last (List.mem_append_right before (List.mem_singleton_self last)))

inductive Move where
  | look
  | cancel
  | pass (duration : Nat)

namespace Run

/-- Whether a look at the run starts the step of its node. -/
def begins (run : Run) (now : Nat) : Bool :=
  match run.phase with
  | .ready => (run.context.limits.interruption? now).isNone
  | .suspended _ | .ended _ => false

/-- How far a look at the run finds the step of its node. -/
def progress? (run : Run) (now : Nat) (transport : Transport) : Option Progress :=
  match run.phase with
  | .suspended step => some (step.look run.context now)
  | .ended _ => none
  | .ready =>
    match run.context.limits.interruption? now, run.registry.handler run.node.kind with
    | none, some handler => some (run.node.start handler run.context now transport).1
    | _, _ => none

/-- What a look at the run waits for, if the limits allow it to wait. -/
def awaited? (run : Run) (now : Nat) (transport : Transport) : Option Suspended :=
  match run.context.limits.interruption? now, run.phase with
  | none, .suspended step => some step
  | none, .ready =>
    if run.registry.handler run.node.kind = some run.node.kind then
      match (run.node.step.start run.node.id run.context now transport).1 with
      | .suspended step => some step
      | .finished _ => none
    else none
  | _, _ => none

end Run

structure Journey where
  run : Run
  transport : Transport
  now : Nat
  /-- Whether the run was cancelled, by anybody or by the reply to a request. -/
  token : Bool
  visits : List Visit

namespace Journey

def start (graph : Graph) (tolerance : UInt32) (epoch : Nat) (vars : Variables) (timeout : UInt64)
    (now : Nat) (transport : Transport) : Journey :=
  ⟨.start graph .standard tolerance epoch vars timeout now, transport, now, false, []⟩

/-- The visits after a look, which may start a step and may bring its result. -/
def visitsAfterLook (journey : Journey) : List Visit :=
  let begun :=
    if journey.run.begins journey.now then
      journey.visits ++ [⟨journey.run.node, journey.now, journey.run.context, none⟩]
    else journey.visits
  match journey.run.progress? journey.now journey.transport with
  | some (.finished result) => Visit.settle begun result
  | some (.suspended _) | none => begun

def after (journey : Journey) : Move → Journey
  | .look =>
    { run := (journey.run.poll journey.now journey.transport).1
      transport := (journey.run.poll journey.now journey.transport).2
      now := journey.now
      token := journey.token ||
        (journey.run.awaited? journey.now journey.transport).any (·.hasCancelled journey.now)
      visits := journey.visitsAfterLook }
  | .cancel => { journey with run := journey.run.cancel, token := true }
  | .pass duration => { journey with now := journey.now + duration }

def afterAll (journey : Journey) (moves : List Move) : Journey := moves.foldl after journey

/-- No move lets the clock pass the time at which the run has to be looked at again. -/
def Prompt (journey : Journey) : List Move → Prop
  | [] => True
  | .pass duration :: moves =>
    (∀ wake ∈ journey.run.wake? journey.now, journey.now + duration ≤ wake) ∧
      (journey.after (.pass duration)).Prompt moves
  | move :: moves => (journey.after move).Prompt moves

instance decidablePrompt (journey : Journey) : (moves : List Move) → Decidable (journey.Prompt moves)
  | [] => .isTrue trivial
  | .look :: moves => decidablePrompt (journey.after .look) moves
  | .cancel :: moves => decidablePrompt (journey.after .cancel) moves
  | .pass duration :: moves =>
    have := decidablePrompt (journey.after (.pass duration)) moves
    inferInstanceAs (Decidable (_ ∧ _))

/-- What can happen while a run is looked at. -/
inductive Turn : Journey → Journey → Prop where
  | refuse {journey : Journey} {reason : Interruption} :
    journey.run.phase = .ready →
    journey.run.context.limits.interruption? journey.now = some reason →
    Turn journey { journey with run := journey.run.stop journey.now (.interrupted reason) }
  | carryOut {journey : Journey} {result : StepResult} :
    journey.run.phase = .ready →
    journey.run.context.limits.interruption? journey.now = none →
    result.Leaves journey.run.context (journey.run.node.step.verdict journey.run.context.vars) →
    (∀ reason, result ≠ .error (.interrupted reason)) →
    (journey.run.node.kind = .assertion → ∃ done, result = .ok done) →
    Turn journey { journey with
      run := journey.run.proceed journey.now (.finished result)
      visits := journey.visits ++
        [⟨journey.run.node, journey.now, journey.run.context, some result⟩] }
  | begin {journey : Journey} {step : Suspended} {transport : Transport} :
    journey.run.phase = .ready →
    journey.run.context.limits.interruption? journey.now = none →
    journey.run.node.kind ≠ .assertion →
    journey.transport.Served transport journey.run.context.limits journey.now →
    Turn journey { journey with
      run := { journey.run with phase := .suspended step }
      transport
      visits := journey.visits ++ [⟨journey.run.node, journey.now, journey.run.context, none⟩] }
  | interrupt {journey : Journey} {step : Suspended} {reason : Interruption} :
    journey.run.phase = .suspended step →
    journey.run.context.limits.interruption? journey.now = some reason →
    Turn journey { journey with
      run := journey.run.stop journey.now (.interrupted reason)
      visits := Visit.settle journey.visits (.error (.interrupted reason)) }
  | withdraw {journey : Journey} {step : Suspended} :
    journey.run.phase = .suspended step →
    journey.run.context.limits.interruption? journey.now = none →
    Turn journey { journey with
      run := journey.run.stop journey.now (.interrupted .cancelled)
      token := true
      visits := Visit.settle journey.visits (.error (.interrupted .cancelled)) }
  | finish {journey : Journey} {step : Suspended} {result : StepResult} :
    journey.run.phase = .suspended step →
    journey.run.context.limits.interruption? journey.now = none →
    result.Leaves journey.run.context none →
    (∀ reason, result ≠ .error (.interrupted reason)) →
    Turn journey { journey with
      run := journey.run.proceed journey.now (.finished result)
      visits := Visit.settle journey.visits result }

theorem after_look_of_ended {journey : Journey} {ending : Ending}
    (ended : journey.run.phase = .ended ending) : journey.after .look = journey := by
  have quiet : journey.run.awaited? journey.now journey.transport = none := by
    unfold Run.awaited?
    rw [ended]
    cases journey.run.context.limits.interruption? journey.now <;> rfl
  simp [after, Run.poll, visitsAfterLook, Run.begins, Run.progress?, ended, quiet]

theorem after_look_of_suspended {journey : Journey} {step : Suspended}
    (suspended : journey.run.phase = .suspended step) :
    journey.after .look = { journey with
      run := journey.run.proceed journey.now (step.look journey.run.context journey.now)
      token := journey.token ||
        ((journey.run.context.limits.interruption? journey.now).isNone &&
          step.hasCancelled journey.now)
      visits :=
        match step.look journey.run.context journey.now with
        | .finished result => Visit.settle journey.visits result
        | .suspended _ => journey.visits } := by
  have asked : (journey.run.awaited? journey.now journey.transport).any
      (·.hasCancelled journey.now) =
        ((journey.run.context.limits.interruption? journey.now).isNone &&
          step.hasCancelled journey.now) := by
    unfold Run.awaited?
    rw [suspended]
    cases journey.run.context.limits.interruption? journey.now <;> simp
  simp only [after, asked, Run.poll, visitsAfterLook, Run.begins, Run.progress?, suspended,
    Bool.false_eq_true, if_false]
  cases step.look journey.run.context journey.now <;> rfl

theorem look_of_suspended {journey : Journey} {step : Suspended}
    (suspended : journey.run.phase = .suspended step) :
    ReflGen Turn journey (journey.after .look) := by
  rw [after_look_of_suspended suspended]
  cases limit : journey.run.context.limits.interruption? journey.now with
  | some reason =>
    simp only [Suspended.look_of_interrupted limit, Option.isNone_some, Bool.false_and,
      Bool.or_false]
    exact .single (.interrupt suspended limit)
  | none =>
    by_cases cancels : step.hasCancelled journey.now = true
    · simp only [Suspended.look_of_hasCancelled limit cancels, cancels, Option.isNone_none,
        Bool.and_true, Bool.or_true]
      exact .single (.withdraw suspended limit)
    · have quiet : step.hasCancelled journey.now = false := by simpa using cancels
      rcases Suspended.look_of_free limit quiet with waiting | ⟨result, done, leaves, own⟩
      · have same : journey.run.proceed journey.now (.suspended step) = journey.run := by
          rw [Run.proceed, ← suspended]
        simp only [waiting, same, quiet, Bool.and_false, Bool.or_false]
        exact .refl
      · simp only [done, quiet, Bool.and_false, Bool.or_false]
        exact .single (.finish suspended limit leaves own)

theorem after_look_of_refused {journey : Journey} {reason : Interruption}
    (ready : journey.run.phase = .ready)
    (limit : journey.run.context.limits.interruption? journey.now = some reason) :
    journey.after .look =
      { journey with run := journey.run.stop journey.now (.interrupted reason) } := by
  simp [after, Run.poll, Run.dispatch, visitsAfterLook, Run.begins, Run.progress?, Run.awaited?,
    ready, limit]

/-- The journey when the step of the node has begun to wait, before the first look at it. -/
def waiting (journey : Journey) (step : Suspended) (transport : Transport) : Journey :=
  { journey with
    run := { journey.run with phase := .suspended step }
    transport
    visits := journey.visits ++ [⟨journey.run.node, journey.now, journey.run.context, none⟩] }

section Ready
variable {journey : Journey} {transport : Transport}
  (standard : journey.run.registry = .standard) (ready : journey.run.phase = .ready)
  (free : journey.run.context.limits.interruption? journey.now = none)
include standard ready free

theorem after_look_of_done {result : StepResult}
    (done : journey.run.node.step.start journey.run.node.id journey.run.context journey.now
      journey.transport = (.finished result, transport)) :
    journey.after .look = { journey with
      run := journey.run.proceed journey.now (.finished result)
      transport
      visits := journey.visits ++
        [⟨journey.run.node, journey.now, journey.run.context, some result⟩] } := by
  have started : journey.run.node.start journey.run.node.kind journey.run.context journey.now
      journey.transport = (.finished result, transport) := by
    simp [Node.start, done]
  simp [after, Run.poll, Run.dispatch, visitsAfterLook, Run.begins, Run.progress?, Run.awaited?,
    Registry.get, Registry.standard, standard, ready, free, started, done]

/-- A step that has to wait is looked at for the first time by the look that starts it. -/
theorem after_look_of_waiting {step : Suspended}
    (waits : journey.run.node.step.start journey.run.node.id journey.run.context journey.now
      journey.transport = (.suspended step, transport)) :
    journey.after .look = (journey.waiting step transport).after .look := by
  have started : journey.run.node.start journey.run.node.kind journey.run.context journey.now
      journey.transport = (step.look journey.run.context journey.now, transport) := by
    simp [Node.start, waits]
  have suspended : (journey.waiting step transport).run.phase = .suspended step := rfl
  rw [after_look_of_suspended suspended]
  -- The run as it stands is still ready, and nothing in it depends on that.
  simp only [waiting, Run.proceed_phase]
  simp [after, Run.poll, Run.dispatch, visitsAfterLook, Run.begins, Run.progress?, Run.awaited?,
    Registry.get, Registry.standard, standard, ready, free, started, waits]
  cases step.look journey.run.context journey.now <;> rfl

end Ready

/-- A look makes one turn at most, after it has started a step that waits, if it does. -/
theorem look_cases {journey : Journey} (standard : journey.run.registry = .standard) :
    ReflGen Turn journey (journey.after .look) ∨
    ∃ step transport, Turn journey (journey.waiting step transport) ∧
      journey.run.context.limits.interruption? journey.now = none ∧
      journey.transport.Served transport journey.run.context.limits journey.now ∧
      ReflGen Turn (journey.waiting step transport) (journey.after .look) := by
  cases phase : journey.run.phase with
  | ended ending =>
    left
    rw [after_look_of_ended phase]
  | suspended step => exact .inl (look_of_suspended phase)
  | ready =>
    cases limit : journey.run.context.limits.interruption? journey.now with
    | some reason =>
      left
      rw [after_look_of_refused phase limit]
      exact .single (.refuse phase limit)
    | none =>
      rcases Step.start_of_free limit with ⟨result, done, leaves, own, sure⟩ |
        ⟨step, transport, waits, kind, served⟩
      · left
        rw [after_look_of_done standard phase limit done]
        exact .single (.carryOut phase limit leaves own sure)
      · right
        rw [after_look_of_waiting standard phase limit waits]
        have begun : Turn journey (journey.waiting step transport) :=
          .begin phase limit kind served
        exact ⟨step, transport, begun, rfl, served, look_of_suspended rfl⟩

theorem look_turns {journey : Journey} (standard : journey.run.registry = .standard) :
    ReflTransGen Turn journey (journey.after .look) := by
  rcases look_cases standard with turn | ⟨step, transport, begun, -, -, turn⟩
  · exact turn.to_reflTransGen
  · exact .head begun turn.to_reflTransGen

/-- What turns, cancellation and the passing of time preserve holds after all moves. -/
theorem afterAll_invariant {p : Journey → Prop}
    (standard : ∀ journey, p journey → journey.run.registry = .standard)
    (turn : ∀ before after, p before → Turn before after → p after)
    (cancel : ∀ journey, p journey → p (journey.after .cancel))
    (pass : ∀ journey duration, p journey → p (journey.after (.pass duration)))
    {journey : Journey} (initially : p journey) (moves : List Move) :
    p (journey.afterAll moves) := by
  induction moves generalizing journey with
  | nil => exact initially
  | cons move moves ih =>
    change p ((journey.after move).afterAll moves)
    apply ih
    cases move with
    | cancel => exact cancel journey initially
    | pass duration => exact pass journey duration initially
    | look =>
      -- Along the turns of one look, by induction on their number.
      have turns := look_turns (standard journey initially)
      generalize journey.after .look = final at turns
      induction turns with
      | refl => exact initially
      | tail _ last reached => exact turn _ _ reached last

/-- A polling flow that is given 7 ms: the delay of its second round outlasts the deadline. -/
def pollingStart : Journey := start .polling 0 0 {} 7 0 .offline

def pollingMoves : List Move :=
  [.look, .look, .pass 5, .look, .look, .look, .pass 2, .look]

end Journey

end Scenario
