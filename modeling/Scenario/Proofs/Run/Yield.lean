import Scenario.Proofs.Run.Step
/-!
What the steps result in.

`Step.Does` lists what a step reports and leaves behind when it is done, and `Step.Fails` why it may
not be done, for each kind of step. Whatever `Step.start` and `Suspended.look` bring, in one look or
after many, is listed.
-/
namespace Scenario

-- A step is started in some context, at some time, before some transport.

/-- What a step that is done reports, and the context that it leaves behind. -/
inductive Step.Does (node : String) (context : Context) (now : Nat) (transport : Transport) :
    Step → StepReport → Context → Prop where
  | assertion (data : Assertion) :
    Does node context now transport (.assertion data)
      (.ofAssertion (context.vars.resolveOperand data.left) data.operator
        (context.vars.resolveOperand data.right) (data.verdict context.vars)) context
  | assignment {data : Assignment} : Text.isBlankText data.name = false →
    Does node context now transport (.assignment data) .silent
      (context.set data.name (context.vars.resolveValue data.value))
  | output (template : Json.Value) :
    Does node context now transport (.output template)
      (.ofOutput node (context.vars.resolveValue template)) context
  | auth {data : Auth} {credentials : Option Credentials} :
    data.resolve context.vars = .ok credentials →
    Does node context now transport (.auth data) .silent { context with credentials }
  | delay (duration : UInt64) :
    Does node context now transport (.delay duration) (.ofDelay duration) context
  | request {data : RequestStep} {request : Request} {response : Response} :
    data.fill context.vars context.credentials = .ok request →
    (transport.send request (context.limits.remaining now)).1.result = some (.ok response) →
    Does node context now transport (.request data) (.ofRequest request response)
      (context.set node response.encode)

/-- Why a step is not done. -/
inductive Step.Fails (node : String) (context : Context) (now : Nat) (transport : Transport) :
    Step → StepError → Prop where
  | assignment {data : Assignment} : Text.isBlankText data.name = true →
    Fails node context now transport (.assignment data) (.invalid (.emptyVariableName node))
  | auth {data : Auth} {fault : StepFault} :
    data.resolve context.vars = .error fault →
    Fails node context now transport (.auth data) (.invalid fault)
  | unfilled {data : RequestStep} {fault : StepFault} :
    data.fill context.vars context.credentials = .error fault →
    Fails node context now transport (.request data) (.invalid fault)
  | request {data : RequestStep} {request : Request} {failure : RequestFailure} :
    data.fill context.vars context.credentials = .ok request →
    (transport.send request (context.limits.remaining now)).1.result = some (.error failure) →
    Fails node context now transport (.request data) (.requestFailed failure)
  | interrupted {step : Step} (reason : Interruption) : step.kind = .delay ∨ step.kind = .request →
    Fails node context now transport step (.interrupted reason)

def Step.Yields (node : String) (context : Context) (now : Nat) (transport : Transport)
    (step : Step) : StepResult → Prop
  | .ok (report, after) => step.Does node context now transport report after
  | .error e => step.Fails node context now transport e

variable {step : Step} {node : String} {context : Context} {now : Nat} {transport : Transport}

theorem Step.yields_of_start {result : StepResult} {after : Transport}
    (done : step.start node context now transport = (.finished result, after)) :
    step.Yields node context now transport result ∧ after = transport := by
  cases step with
  | assertion data =>
    cases done
    exact ⟨.assertion data, rfl⟩
  | output template =>
    cases done
    exact ⟨.output template, rfl⟩
  | assignment data =>
    cases done
    refine ⟨?_, rfl⟩
    unfold assign
    cases blank : Text.isBlankText data.name with
    | true => exact .assignment blank
    | false => exact .assignment blank
  | auth data =>
    cases done
    refine ⟨?_, rfl⟩
    unfold authenticate
    cases resolved : data.resolve context.vars with
    | error fault => exact .auth resolved
    | ok credentials => exact .auth resolved
  | delay duration =>
    rw [start] at done
    split at done <;> cases done
    exact ⟨.interrupted _ (.inl rfl), rfl⟩
  | request data =>
    rw [start] at done
    cases filled : data.fill context.vars context.credentials with
    | error fault =>
      rw [filled] at done
      cases done
      exact ⟨.unfilled filled, rfl⟩
    | ok request =>
      rw [filled] at done
      dsimp only at done
      split at done <;> cases done
      exact ⟨.interrupted _ (.inr rfl), rfl⟩

/-- Only delays and requests have to wait, and a request has been sent by then. -/
theorem Step.suspended_of_start {suspended : Suspended} {after : Transport}
    (waits : step.start node context now transport = (.suspended suspended, after)) :
    (∃ duration, step = .delay duration ∧ after = transport ∧
      suspended = .delay duration (.sleep duration.toNat now)) ∨
    ∃ data request, step = .request data ∧
      data.fill context.vars context.credentials = .ok request ∧
      after = (transport.send request (context.limits.remaining now)).2 ∧
      let reply := (transport.send request (context.limits.remaining now)).1
      suspended =
        .request node request ⟨timerEnd reply.latency now, reply.cancels, reply.result⟩ := by
  cases step with
  | assertion data => cases waits
  | assignment data => cases waits
  | output template => cases waits
  | auth data => cases waits
  | delay duration =>
    rw [start] at waits
    cases limit : context.limits.interruption? now with
    | some reason => simp [limit] at waits
    | none =>
      rw [limit] at waits
      cases waits
      exact .inl ⟨duration, rfl, rfl, rfl⟩
  | request data =>
    rw [start] at waits
    cases filled : data.fill context.vars context.credentials with
    | error fault => simp [filled] at waits
    | ok request =>
      cases limit : context.limits.interruption? now with
      | some reason => simp [filled, limit] at waits
      | none =>
        simp only [filled, limit] at waits
        cases waits
        exact .inr ⟨data, request, rfl, filled, rfl, rfl⟩

theorem Operation.answer_of_look {α : Type} {operation : Operation α} {limits : Limits}
    {time : Nat} {answer : α} (answered : operation.look limits time = .answered answer) :
    operation.answer = some answer := by
  cases limit : limits.interruption? time with
  | some reason => simp [look_of_interrupted limit] at answered
  | none =>
    rw [look_of_free limit] at answered
    cases given : operation.answer with
    | none => split at answered <;> simp [given] at answered
    | some other =>
      rw [given] at answered
      split at answered
      · cases answered
      · dsimp only at answered
        split at answered
        · cases answered
          rfl
        · cases answered

/-- A step that had to wait, and at a later look is over, results in what is listed. Meanwhile the
run may have been cancelled, but then the step is interrupted. -/
theorem Suspended.yields_of_look {suspended : Suspended} {after : Transport}
    (waits : step.start node context now transport = (.suspended suspended, after))
    {later : Context} (same : context = { later with cancelled := false }) {time : Nat}
    {result : StepResult} (finished : suspended.look later time = .finished result) :
    step.Yields node context now transport result := by
  have suspends : step.kind = .delay ∨ step.kind = .request := by
    rcases Step.suspended_of_start waits with ⟨duration, rfl, -⟩ | ⟨data, request, rfl, -⟩
    · exact .inl rfl
    · exact .inr rfl
  cases limit : later.limits.interruption? time with
  | some reason =>
    rw [look_of_interrupted limit] at finished
    cases finished
    exact .interrupted reason suspends
  | none =>
    have free := (later.limits.interruption?_eq_none_iff time).mp limit
    have uncancelled : later.cancelled = false := free.1
    have unchanged : later = context := by rw [same, ← uncancelled]
    subst unchanged
    rcases Step.suspended_of_start waits with ⟨duration, rfl, -, rfl⟩ |
      ⟨data, request, rfl, filled, -, rfl⟩
    · rw [look] at finished
      split at finished
      · cases finished
      · cases finished
        exact .interrupted _ suspends
      · cases finished
        exact .delay duration
    · rw [look] at finished
      split at finished
      · cases finished
      · cases finished
        exact .interrupted _ suspends
      · rename_i answer seen
        cases finished
        have given := Operation.answer_of_look seen
        cases answer with
        | ok response => exact .request filled given
        | error failure => exact .request filled given

end Scenario
