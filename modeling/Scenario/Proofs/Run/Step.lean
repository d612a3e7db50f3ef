import Scenario.Run.Handler
/-!
What a step can do.

A look at a step shows one of four things: the limits of the run stop it, the operation it waits
for cancels the run, it has a result, or it goes on waiting. A step that has a result has changed
nothing but variables and credentials, and only an assertion has a verdict.
-/
namespace Scenario

namespace Limits

theorem interruption?_eq_none_iff (limits : Limits) (now : Nat) :
    limits.interruption? now = none ↔ limits.cancelled = false ∧ now < limits.deadline := by
  unfold interruption?
  by_cases cancelled : limits.cancelled = true
  · simp [cancelled]
  · by_cases late : limits.deadline ≤ now
    · simp [cancelled, late, Nat.not_lt.mpr late]
    · simp [cancelled, late, Nat.not_le.mp late]

theorem interruption?_eq_cancelled_iff (limits : Limits) (now : Nat) :
    limits.interruption? now = some .cancelled ↔ limits.cancelled = true := by
  unfold interruption?
  by_cases cancelled : limits.cancelled = true
  · simp [cancelled]
  · by_cases late : limits.deadline ≤ now <;> simp [cancelled, late]

theorem interruption?_eq_timedOut_iff (limits : Limits) (now : Nat) :
    limits.interruption? now = some .timedOut ↔
      limits.cancelled = false ∧ limits.deadline ≤ now := by
  unfold interruption?
  by_cases cancelled : limits.cancelled = true
  · simp [cancelled]
  · by_cases late : limits.deadline ≤ now <;> simp [cancelled, late]

end Limits

namespace Operation
variable {α : Type}

/-- By this time the operation has cancelled the run, if it is looked at. -/
def hasCancelled (operation : Operation α) (now : Nat) : Bool :=
  operation.cancels && decide (operation.due ≤ now)

/-- The limits decide first; then an operation that is due cancels the run or answers. -/
theorem look_of_free {operation : Operation α} {limits : Limits} {now : Nat}
    (free : limits.interruption? now = none) :
    operation.look limits now =
      if operation.hasCancelled now then .stopped .cancelled
      else
        match operation.answer with
        | some answer => if operation.due ≤ now then .answered answer else .waiting
        | none => .waiting := by
  have early : now < limits.deadline := ((limits.interruption?_eq_none_iff now).mp free).2
  unfold look hasCancelled
  rw [free]
  by_cases pending : now < operation.due
  · cases operation.answer <;> simp [pending, Nat.not_le.mpr pending]
  · have due : operation.due ≤ now := Nat.not_lt.mp pending
    cases cancels : operation.cancels with
    | true => simp [pending, due, Limits.interruption?]
    | false =>
      cases operation.answer <;> simp [pending, due, Limits.interruption?, Nat.not_le.mpr early]

theorem look_of_interrupted {operation : Operation α} {limits : Limits} {now : Nat}
    {reason : Interruption} (interrupted : limits.interruption? now = some reason) :
    operation.look limits now = .stopped reason := by
  unfold look
  rw [interrupted]

end Operation

/-- The truth of an assertion over some variables. -/
def Assertion.verdict (data : Assertion) (vars : Variables) : Bool :=
  data.operator.holds (vars.resolveOperand data.left) (vars.resolveOperand data.right)

/-- The truth of the assertion that a step makes, if it makes one. -/
def Step.verdict (vars : Variables) : Step → Option Bool
  | .assertion data => some (data.verdict vars)
  | _ => none

/-- The same context but for its variables and credentials. -/
def Context.SameLimits (before after : Context) : Prop :=
  after = { before with vars := after.vars, credentials := after.credentials }

/-- If the step is done, it leaves the limits as they are and reports a verdict. -/
def StepResult.Leaves (result : StepResult) (context : Context) (verdict : Option Bool) : Prop :=
  ∀ report after, result = .ok (report, after) →
    report.branch = verdict ∧ context.SameLimits after

namespace Suspended

def hasCancelled (step : Suspended) (now : Nat) : Bool :=
  match step with
  | .delay _ operation => operation.hasCancelled now
  | .request _ _ operation => operation.hasCancelled now

theorem look_of_interrupted {step : Suspended} {context : Context} {now : Nat}
    {reason : Interruption} (interrupted : context.limits.interruption? now = some reason) :
    step.look context now = .finished (.error (.interrupted reason)) := by
  cases step <;> simp [look, Operation.look_of_interrupted interrupted]

theorem look_of_hasCancelled {step : Suspended} {context : Context} {now : Nat}
    (free : context.limits.interruption? now = none) (cancels : step.hasCancelled now = true) :
    step.look context now = .finished (.error (.interrupted .cancelled)) := by
  cases step with
  | delay duration operation =>
    have hit : operation.hasCancelled now = true := cancels
    simp [look, Operation.look_of_free free, hit]
  | request node request operation =>
    have hit : operation.hasCancelled now = true := cancels
    simp [look, Operation.look_of_free free, hit]

theorem finishRequest_leaves (context : Context) (node : String) (request : Request)
    (answer : Except RequestFailure Response) :
    (finishRequest context node request answer).Leaves context none := by
  intro report after done
  cases answer with
  | error failure => cases done
  | ok response =>
    cases done
    exact ⟨rfl, rfl⟩

theorem look_of_free {step : Suspended} {context : Context} {now : Nat}
    (free : context.limits.interruption? now = none) (quiet : step.hasCancelled now = false) :
    step.look context now = .suspended step ∨
      ∃ result, step.look context now = .finished result ∧ result.Leaves context none ∧
        ∀ reason, result ≠ .error (.interrupted reason) := by
  cases step with
  | delay duration operation =>
    have silent : operation.hasCancelled now = false := quiet
    simp only [look, Operation.look_of_free free, silent]
    by_cases due : operation.due ≤ now
    · cases operation.answer with
      | none => exact .inl rfl
      | some answer =>
        simp only [due, if_true, Bool.false_eq_true, if_false]
        refine .inr ⟨_, rfl, ?_, by simp⟩
        rintro report after ⟨⟩
        exact ⟨rfl, rfl⟩
    · left
      cases operation.answer <;> simp [due]
  | request node request operation =>
    have silent : operation.hasCancelled now = false := quiet
    simp only [look, Operation.look_of_free free, silent]
    by_cases due : operation.due ≤ now
    · cases operation.answer with
      | none => exact .inl rfl
      | some answer =>
        simp only [due, if_true, Bool.false_eq_true, if_false]
        refine .inr ⟨_, rfl, finishRequest_leaves context node request answer, ?_⟩
        cases answer <;> simp [finishRequest]
    · left
      cases operation.answer <;> simp [due]

theorem wake_of_look {step other : Suspended} {context : Context} {now : Nat}
    (waiting : step.look context now = .suspended other) :
    other = step ∧ now < step.wake context.limits now := by
  cases step with
  | delay duration operation =>
    cases seen : operation.look context.limits now with
    | waiting =>
      simp only [look, seen, Progress.suspended.injEq] at waiting
      exact ⟨waiting.symm, (Operation.wake_bounds seen).1⟩
    | stopped reason => simp [look, seen] at waiting
    | answered answer => simp [look, seen] at waiting
  | request node request operation =>
    cases seen : operation.look context.limits now with
    | waiting =>
      simp only [look, seen, Progress.suspended.injEq] at waiting
      exact ⟨waiting.symm, (Operation.wake_bounds seen).1⟩
    | stopped reason => simp [look, seen] at waiting
    | answered answer => simp [look, seen] at waiting

end Suspended

theorem Step.verdict_eq_none_iff (step : Step) (vars : Variables) :
    step.verdict vars = none ↔ step.kind ≠ .assertion := by
  cases step <;> simp [verdict, kind]

/-- Either a request was handed over with the time that is left, or the transport is as it was. -/
def Transport.Served (before after : Transport) (limits : Limits) (now : Nat) : Prop :=
  after = before ∨ ∃ request, after = (before.send request (limits.remaining now)).2

/-- Within the limits, a step is done at once or has to wait. Only a request touches the
transport, and an assertion never fails. -/
theorem Step.start_of_free {step : Step} {node : String} {context : Context} {now : Nat}
    {transport : Transport} (free : context.limits.interruption? now = none) :
    (∃ result, step.start node context now transport = (.finished result, transport) ∧
      result.Leaves context (step.verdict context.vars) ∧
      (∀ reason, result ≠ .error (.interrupted reason)) ∧
      (step.kind = .assertion → ∃ done, result = .ok done)) ∨
    ∃ suspended after, step.start node context now transport = (.suspended suspended, after) ∧
      step.kind ≠ .assertion ∧ transport.Served after context.limits now := by
  cases step with
  | assertion data =>
    refine .inl ⟨_, rfl, ?_, by simp [assert], fun _ => ⟨_, rfl⟩⟩
    rintro report after ⟨⟩
    exact ⟨rfl, rfl⟩
  | assignment data =>
    refine .inl ⟨_, rfl, ?_, ?_, by simp [kind]⟩ <;> unfold assign <;> split
    · rintro report after ⟨⟩
    · rintro report after ⟨⟩
      exact ⟨rfl, rfl⟩
    · simp
    · simp
  | output template =>
    refine .inl ⟨_, rfl, ?_, by simp [emit], by simp [kind]⟩
    rintro report after ⟨⟩
    exact ⟨rfl, rfl⟩
  | auth data =>
    refine .inl ⟨_, rfl, ?_, ?_, by simp [kind]⟩ <;> unfold authenticate <;> split
    · rintro report after ⟨⟩
      exact ⟨rfl, rfl⟩
    · rintro report after ⟨⟩
    · simp
    · simp
  | delay duration =>
    right
    simp only [start, free]
    exact ⟨_, transport, rfl, by simp [kind], .inl rfl⟩
  | request data =>
    simp only [start]
    cases filled : data.fill context.vars context.credentials with
    | error fault =>
      refine .inl ⟨_, rfl, ?_, by simp, by simp [kind]⟩
      rintro report after ⟨⟩
    | ok request =>
      simp only [free]
      exact .inr ⟨_, _, rfl, by simp [kind], .inr ⟨request, rfl⟩⟩

end Scenario
