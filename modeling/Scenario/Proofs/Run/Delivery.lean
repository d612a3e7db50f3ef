import Scenario.Proofs.Run.Writes
/-!
Failures that are delivered.

The transport delivers a failure to a run with the look that finds the answer to its request, within
the limits: before the run was cancelled and before its deadline. Every failure that is delivered in
the course of some moves is the result of one visit, in the order in which they come, and no visit
has failed in another way.
-/
namespace Scenario

def StepResult.failure? : StepResult → Option RequestFailure
  | .error (.requestFailed failure) => some failure
  | .error _ | .ok _ => none

/-- The failure with which a step that waits is answered by now, unless it cancels the run first. -/
def Suspended.failure? (step : Suspended) (now : Nat) : Option RequestFailure :=
  match step with
  | .delay _ _ => none
  | .request _ _ operation =>
    if operation.hasCancelled now then none
    else
      match operation.answer with
      | some (.error failure) => if operation.due ≤ now then some failure else none
      | some (.ok _) | none => none

def Visit.failure? (visit : Visit) : Option RequestFailure :=
  visit.result.bind StepResult.failure?

theorem StepResult.failure?_eq_some_iff (result : StepResult) (failure : RequestFailure) :
    result.failure? = some failure ↔ result = .error (.requestFailed failure) := by
  rcases result with (_ | _ | _ | _) | _ <;> simp [StepResult.failure?]

theorem Step.failure?_of_start {step : Step} {node : String} {context : Context} {now : Nat}
    {transport after : Transport} {result : StepResult}
    (done : step.start node context now transport = (.finished result, after)) :
    result.failure? = none := by
  cases step with
  | assertion data =>
    cases done
    rfl
  | output template =>
    cases done
    rfl
  | assignment data =>
    cases done
    unfold assign
    split <;> rfl
  | auth data =>
    cases done
    unfold authenticate
    split <;> rfl
  | delay duration =>
    rw [start] at done
    split at done <;> cases done
    rfl
  | request data =>
    rw [start] at done
    split at done
    · cases done
      rfl
    · split at done <;> cases done
      rfl

namespace Suspended

theorem failure?_of_hasCancelled {step : Suspended} {now : Nat}
    (cancels : step.hasCancelled now = true) : step.failure? now = none := by
  cases step with
  | delay duration operation => rfl
  | request node request operation =>
    have hit : operation.hasCancelled now = true := cancels
    simp [failure?, hit]

theorem failure?_of_look {step : Suspended} {context : Context} {now : Nat}
    (free : context.limits.interruption? now = none) :
    step.failure? now =
      match step.look context now with
      | .finished result => result.failure?
      | .suspended _ => none := by
  cases step with
  | delay duration operation =>
    rw [look]
    cases operation.look context.limits now <;> rfl
  | request node request operation =>
    rw [look, Operation.look_of_free free, failure?]
    cases operation.hasCancelled now with
    | true => rfl
    | false =>
      simp only [Bool.false_eq_true, if_false]
      cases operation.answer with
      | none => rfl
      | some answer =>
        by_cases due : operation.due ≤ now <;> cases answer <;>
          simp [due, finishRequest, StepResult.failure?]

end Suspended

namespace Journey

/-- The failure that a look would deliver to the run. -/
def delivered? (journey : Journey) : Option RequestFailure :=
  (journey.run.awaited? journey.now journey.transport).bind (·.failure? journey.now)

/-- The failures that are delivered in the course of some moves. -/
def failures (journey : Journey) : List Move → List RequestFailure
  | [] => []
  | .look :: moves => journey.delivered?.toList ++ (journey.after .look).failures moves
  | .cancel :: moves => (journey.after .cancel).failures moves
  | .pass duration :: moves => (journey.after (.pass duration)).failures moves

def visitFailures (journey : Journey) : List RequestFailure :=
  journey.visits.filterMap Visit.failure?

variable {graph : Graph} {tolerance : UInt32} {journey : Journey} {step : Suspended}
  {visit : Visit}

theorem visitFailures_append (journey : Journey) {visits : List Visit} {last : Visit}
    (same : journey.visits = visits ++ [last]) :
    journey.visitFailures = visits.filterMap Visit.failure? ++ last.failure?.toList := by
  rw [visitFailures, same, List.filterMap_append]
  cases failure : last.failure? <;> simp [failure]

theorem delivered?_of_suspended (suspended : journey.run.phase = .suspended step) :
    journey.delivered? =
      match step.look journey.run.context journey.now with
      | .finished result => result.failure?
      | .suspended _ => none := by
  unfold delivered? Run.awaited?
  rw [suspended]
  cases limit : journey.run.context.limits.interruption? journey.now with
  | some reason =>
    rw [Suspended.look_of_interrupted limit]
    rfl
  | none => exact Suspended.failure?_of_look limit

theorem delivered?_of_waiting (standard : journey.run.registry = .standard)
    (ready : journey.run.phase = .ready)
    (free : journey.run.context.limits.interruption? journey.now = none) {transport : Transport}
    (waits : journey.run.node.step.start journey.run.node.id journey.run.context journey.now
      journey.transport = (.suspended step, transport)) :
    journey.delivered? = (journey.waiting step transport).delivered? := by
  have earlier : journey.run.awaited? journey.now journey.transport = some step := by
    simp [Run.awaited?, Registry.standard, standard, ready, free, waits]
  have later : (journey.waiting step transport).run.awaited? journey.now transport = some step := by
    simp [Run.awaited?, waiting, free]
  rw [delivered?, earlier]
  change _ = ((journey.waiting step transport).run.awaited? journey.now transport).bind _
  rw [later]
  rfl

/-- A look at a step that waits brings the failure that is delivered, and no other. -/
theorem visitFailures_look_of_suspended (suspended : journey.run.phase = .suspended step)
    {before : List Visit} {last : Visit} (visits : journey.visits = before ++ [last])
    (pending : last.result = none) :
    (journey.after .look).visitFailures = journey.visitFailures ++ journey.delivered?.toList := by
  have unfailed : last.failure? = none := by simp [Visit.failure?, pending]
  have looked := congrArg Journey.visits (after_look_of_suspended suspended)
  rw [journey.visitFailures_append visits, unfailed, delivered?_of_suspended suspended]
  cases seen : step.look journey.run.context journey.now with
  | suspended other =>
    simp only [seen, visits] at looked
    rw [visitFailures_append _ looked, unfailed]
    simp
  | finished result =>
    simp only [seen, visits, Visit.settle_append] at looked
    rw [visitFailures_append _ looked, Option.toList_none, List.append_nil]
    rfl

theorem Sound.visitFailures_look (sound : Sound graph tolerance journey) :
    (journey.after .look).visitFailures = journey.visitFailures ++ journey.delivered?.toList := by
  have standard := sound.registry_eq
  cases phase : journey.run.phase with
  | ended ending =>
    have quiet : journey.delivered? = none := by
      unfold delivered? Run.awaited?
      rw [phase]
      cases journey.run.context.limits.interruption? journey.now <;> rfl
    rw [after_look_of_ended phase, quiet]
    exact (List.append_nil _).symm
  | suspended step =>
    have stands := sound.stands
    rw [phase] at stands
    cases stands with
    | suspended isLast same plain pending =>
      obtain ⟨before, visits⟩ := List.getLast?_eq_some_iff.mp isLast
      exact visitFailures_look_of_suspended phase visits pending
  | ready =>
    cases limit : journey.run.context.limits.interruption? journey.now with
    | some reason =>
      have quiet : journey.delivered? = none := by simp [delivered?, Run.awaited?, limit]
      rw [after_look_of_refused phase limit, quiet]
      exact (List.append_nil _).symm
    | none =>
      cases started : journey.run.node.step.start journey.run.node.id journey.run.context
        journey.now journey.transport with
      | mk progress transport =>
        cases progress with
        | finished result =>
          -- Nothing is awaited, and a step that is done at once is no request that failed.
          have quiet : journey.delivered? = none := by
            simp [delivered?, Run.awaited?, phase, limit, started]
          have unfailed := Step.failure?_of_start started
          rw [after_look_of_done standard phase limit started, quiet, visitFailures_append _ rfl]
          simp only [Visit.failure?, Option.bind_some, unfailed, Option.toList_none]
          rfl
        | suspended step =>
          rw [after_look_of_waiting standard phase limit started,
            delivered?_of_waiting standard phase limit started,
            visitFailures_look_of_suspended rfl rfl rfl, visitFailures_append _ rfl]
          simp only [Visit.failure?, Option.bind_none, Option.toList_none, List.append_nil]
          rfl

theorem Sound.visitFailures_afterAll (runnable : graph.flow.Runnable)
    (sound : Sound graph tolerance journey) (moves : List Move) :
    (journey.afterAll moves).visitFailures = journey.visitFailures ++ journey.failures moves := by
  -- Only a look delivers failures, and it settles the visit to which they belong.
  induction moves generalizing journey with
  | nil => exact (List.append_nil _).symm
  | cons move moves ih =>
    cases move with
    | look =>
      have looked := ih (sound.afterAll runnable [.look])
      change ((journey.after .look).afterAll moves).visitFailures = _
      rw [failures, ← List.append_assoc, ← sound.visitFailures_look]
      exact looked
    | cancel => exact ih sound.cancel
    | pass duration => exact ih (sound.pass duration)

theorem length_visitFailures (journey : Journey) :
    journey.visitFailures.length = journey.visits.countP Visit.failed := by
  rw [visitFailures, List.length_filterMap_eq_countP]
  congr
  funext visit
  rcases result : visit.result with _ | ⟨_ | _ | _ | _⟩ | _ <;>
    simp [Visit.failure?, Visit.failed, StepResult.failure?, result]

/-- What is awaited within the limits is waited for already, or it is started and has to wait. -/
theorem awaited_cases (standard : journey.run.registry = .standard)
    (awaited : journey.run.awaited? journey.now journey.transport = some step) :
    journey.run.context.limits.interruption? journey.now = none ∧
      (journey.run.phase = .suspended step ∨
        journey.run.phase = .ready ∧ ∃ transport,
          journey.run.node.step.start journey.run.node.id journey.run.context journey.now
            journey.transport = (.suspended step, transport)) := by
  unfold Run.awaited? at awaited
  cases limit : journey.run.context.limits.interruption? journey.now with
  | some reason => simp [limit] at awaited
  | none =>
    refine ⟨rfl, ?_⟩
    cases phase : journey.run.phase with
    | ended ending => simp [limit, phase] at awaited
    | suspended other =>
      simp only [limit, phase, Option.some.injEq] at awaited
      exact .inl (congrArg Phase.suspended awaited)
    | ready =>
      refine .inr ⟨rfl, ?_⟩
      cases started : journey.run.node.step.start journey.run.node.id journey.run.context
        journey.now journey.transport with
      | mk progress transport =>
        cases progress with
        | finished result => simp [limit, phase, started] at awaited
        | suspended other =>
          have same : other = step := by
            simpa [limit, phase, started, standard, Registry.standard] using awaited
          exact ⟨transport, by rw [same]⟩

theorem look_of_awaited (standard : journey.run.registry = .standard)
    (awaited : journey.run.awaited? journey.now journey.transport = some step) :
    journey.run.ending? = none ∧ (journey.after .look).run =
      journey.run.proceed journey.now (step.look journey.run.context journey.now) := by
  obtain ⟨free, suspended | ⟨ready, transport, waits⟩⟩ := awaited_cases standard awaited
  · refine ⟨Run.ending?_of_suspended suspended, ?_⟩
    exact congrArg Journey.run (after_look_of_suspended suspended)
  · refine ⟨Run.ending?_of_ready ready, ?_⟩
    have waiting : (journey.waiting step transport).run.phase = .suspended step := rfl
    rw [after_look_of_waiting standard ready free waits, after_look_of_suspended waiting]
    exact journey.run.proceed_phase _ _ _

theorem Recording.started_of_awaited {initial : World} (sound : Sound graph tolerance journey)
    (recording : Recording initial journey)
    (awaited : journey.run.awaited? journey.now journey.transport = some step) :
    ∃ context time before after,
      journey.run.node.step.start journey.run.node.id context time before =
        (.suspended step, after) := by
  obtain ⟨-, suspended | ⟨-, transport, waits⟩⟩ := awaited_cases sound.registry_eq awaited
  · obtain ⟨before, last, visits, -, started⟩ := recording.awaits step suspended
    have stands := sound.stands
    rw [suspended] at stands
    cases stands with
    | suspended isLast same plain pending =>
      rw [visits, List.getLast?_concat] at isLast
      cases isLast
      exact ⟨_, _, _, _, same ▸ started⟩
  · exact ⟨_, _, _, _, waits⟩

theorem Recording.kind_of_delivered {initial : World} (sound : Sound graph tolerance journey)
    (recording : Recording initial journey) {failure : RequestFailure}
    (delivered : journey.delivered? = some failure) : journey.run.node.kind = .request := by
  obtain ⟨step, awaited, fails⟩ := Option.bind_eq_some_iff.mp delivered
  obtain ⟨context, time, before, after, started⟩ := recording.started_of_awaited sound awaited
  rcases Step.suspended_of_start started with ⟨duration, -, -, rfl⟩ | ⟨data, request, same, -⟩
  · cases fails
  · rw [Node.kind, same]
    rfl

theorem Bounded.delivered?_of_late {deadline : Nat} {timeout : UInt64}
    (bounded : Bounded deadline timeout journey) (late : journey.Late deadline) :
    journey.delivered? = none := by
  unfold delivered?
  cases awaited : journey.run.awaited? journey.now journey.transport with
  | none => rfl
  | some step =>
    obtain ⟨free, -⟩ := awaited_cases bounded.registry_eq awaited
    obtain ⟨active, -⟩ := look_of_awaited bounded.registry_eq awaited
    exact absurd late ((bounded.free_iff active).mp free)

theorem Bounded.look_of_late {deadline : Nat} {timeout : UInt64}
    (bounded : Bounded deadline timeout journey) (late : journey.Late deadline)
    (active : journey.run.ending? = none) :
    ∃ ending, (journey.after .look).run.ending? = some ending ∧
      ending.outcome = if journey.token then .cancelled else .timedOut := by
  cases limit : journey.run.context.limits.interruption? journey.now with
  | none => exact absurd late ((bounded.free_iff active).mp limit)
  | some reason =>
    rw [after_look_of_interrupted active limit, Run.ending?_stop]
    refine ⟨_, rfl, ?_⟩
    have ends := bounded.endsBy_stop active limit
    cases token : journey.token with
    | true => exact ends.cancelled.mpr token
    | false => exact ends.timedOut.mpr ⟨token, late.resolve_left (by simp [token])⟩

theorem look_of_withdrawn (standard : journey.run.registry = .standard)
    (awaited : journey.run.awaited? journey.now journey.transport = some step)
    (cancels : step.hasCancelled journey.now = true) :
    journey.delivered? = none ∧ ∃ ending,
      (journey.after .look).run.ending? = some ending ∧ ending.outcome = .cancelled := by
  obtain ⟨free, -⟩ := awaited_cases standard awaited
  obtain ⟨-, run⟩ := look_of_awaited standard awaited
  constructor
  · rw [delivered?, awaited]
    exact Suspended.failure?_of_hasCancelled cancels
  · rw [run, Suspended.look_of_hasCancelled free cancels]
    exact ⟨_, journey.run.ending?_stop journey.now (.interrupted .cancelled), rfl⟩

/-- The transport has replied to the request of a visit with the failure that was delivered. -/
theorem Recording.replied {initial : World} (recording : Recording initial journey)
    {before after : List Visit} {failure : RequestFailure}
    (visits : journey.visits = before ++ visit :: after) (failed : visit.failure? = some failure) :
    ∃ data request, visit.node.step = .request data ∧
      ((initial.visitAll before).transport.send request
        (visit.context.limits.remaining visit.time)).1.result = some (.error failure) := by
  obtain ⟨result, isResult, isFailure⟩ := Option.bind_eq_some_iff.mp failed
  rw [(result.failure?_eq_some_iff failure).mp isFailure] at isResult
  have admitted := recording.admitted
  rw [visits] at admitted
  have yields := admitted.at.yields _ isResult
  generalize visit.node.step = step at yields ⊢
  cases yields with
  | request filled given => exact ⟨_, _, rfl, given⟩

end Journey

end Scenario
