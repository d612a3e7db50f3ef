import Scenario.Proofs.Dict
import Scenario.Proofs.Run.Timing
import Scenario.Proofs.Run.Walk
import Scenario.Proofs.Run.Yield
/-!
What a run writes.

The world of a run is what its steps work on: variables, credentials and the transport. Each visit
changes it in its own way, which `World.visit` says, and nothing else ever changes it. So the world
of a journey follows from the world that it began with and the visits that were made since.
-/
namespace Scenario

@[ext]
structure World where
  vars : Variables
  credentials : Option Credentials
  transport : Transport

namespace World

open Json (Value)

/-- The request that a step hands over; there is none if it cannot be filled in. -/
def request? (world : World) : Step → Option Request
  | .request data => (data.fill world.vars world.credentials).toOption
  | .assertion _ | .delay _ | .assignment _ | .output _ | .auth _ => none

/-- The reply to the request of a visit. -/
def reply? (world : World) (visit : Visit) : Option Reply :=
  (world.request? visit.node.step).map fun request =>
    (world.transport.send request (visit.context.limits.remaining visit.time)).1

/-- What a step binds when it is done: an assignment its variable, and a request its response under
the id of the node. -/
def binding? (world : World) (visit : Visit) : Option (String × Value) :=
  match visit.node.step with
  | .assignment data => some (data.name, world.vars.resolveValue data.value)
  | .request _ =>
    match (world.reply? visit).bind (·.result) with
    | some (.ok response) => some (visit.node.id, response.encode)
    | _ => none
  | .assertion _ | .delay _ | .output _ | .auth _ => none

/-- The credentials that are in force when a step is done. -/
def credentialsAfter (world : World) : Step → Option Credentials
  | .auth data =>
    match data.resolve world.vars with
    | .ok credentials => credentials
    | .error _ => world.credentials
  | .request _ | .assertion _ | .delay _ | .assignment _ | .output _ => world.credentials

/-- The world after a visit. A request is sent as soon as it has been filled in; everything else is
written only if the step was done. -/
def visit (world : World) (visit : Visit) : World where
  vars :=
    match visit.finished, world.binding? visit with
    | true, some (name, value) => world.vars.insert name value
    | _, _ => world.vars
  credentials :=
    if visit.finished then world.credentialsAfter visit.node.step else world.credentials
  transport :=
    match world.request? visit.node.step with
    | some request =>
      (world.transport.send request (visit.context.limits.remaining visit.time)).2
    | none => world.transport

def visitAll (world : World) (visits : List Visit) : World := visits.foldl visit world

/-- The visit was made in this world, and its result is one that its step can have there. -/
structure Admits (world : World) (visit : Visit) : Prop where
  vars : visit.context.vars = world.vars
  credentials : visit.context.credentials = world.credentials
  uncancelled : visit.context.cancelled = false
  yields : ∀ result, visit.result = some result →
    visit.node.step.Yields visit.node.id visit.context visit.time world.transport result

/-- Each visit was made in the world that those before it had left behind. -/
def AdmitsAll (world : World) : List Visit → Prop
  | [] => True
  | visit :: visits => world.Admits visit ∧ (world.visit visit).AdmitsAll visits

theorem visitAll_append (world : World) (visits later : List Visit) :
    world.visitAll (visits ++ later) = (world.visitAll visits).visitAll later := List.foldl_append

theorem admitsAll_append (world : World) (visits later : List Visit) :
    world.AdmitsAll (visits ++ later) ↔
      world.AdmitsAll visits ∧ (world.visitAll visits).AdmitsAll later := by
  induction visits generalizing world with
  | nil => simp [AdmitsAll, visitAll]
  | cons visit visits ih =>
    rw [List.cons_append, AdmitsAll, AdmitsAll, ih, and_assoc]
    rfl

theorem admitsAll_snoc (world : World) (visits : List Visit) (visit : Visit) :
    world.AdmitsAll (visits ++ [visit]) ↔
      world.AdmitsAll visits ∧ (world.visitAll visits).Admits visit := by
  simp [admitsAll_append, AdmitsAll]

theorem AdmitsAll.at {world : World} {before after : List Visit} {visit : Visit}
    (admitted : world.AdmitsAll (before ++ visit :: after)) :
    (world.visitAll before).Admits visit :=
  ((world.admitsAll_append before (visit :: after)).mp admitted).2.1

theorem visitAll_snoc (world : World) (visits : List Visit) (visit : Visit) :
    world.visitAll (visits ++ [visit]) = (world.visitAll visits).visit visit :=
  visitAll_append world visits [visit]

variable {world : World} {visit : Visit}

theorem visit_of_unfinished (world : World) (unfinished : visit.finished = false) :
    (world.visit visit).vars = world.vars ∧
      (world.visit visit).credentials = world.credentials := by
  simp [World.visit, unfinished]

theorem transport_of_start {result : Option StepResult} {node : Node} {context : Context}
    {now : Nat} (free : context.limits.interruption? now = none)
    (vars : context.vars = world.vars) (credentials : context.credentials = world.credentials) :
    (world.visit ⟨node, now, context, result⟩).transport =
      (node.step.start node.id context now world.transport).2 := by
  unfold World.visit
  dsimp only
  cases node.step with
  | assertion data => rfl
  | output template => rfl
  | assignment data => rfl
  | auth data => rfl
  | delay duration => rw [Step.start, free, request?]
  | request data =>
    rw [Step.start, request?, vars, credentials]
    cases data.fill world.vars world.credentials with
    | error fault => rfl
    | ok request => simp only [free, Except.toOption]

theorem Admits.contextOr (admits : world.Admits visit) {result : StepResult}
    (isResult : visit.result = some result) :
    (world.visit visit).vars = (result.contextOr visit.context).vars ∧
      (world.visit visit).credentials = (result.contextOr visit.context).credentials := by
  have vars := admits.vars
  have credentials := admits.credentials
  have yields := admits.yields result isResult
  cases result with
  | error e =>
    have unfinished : visit.finished = false := by simp [Visit.finished, isResult]
    obtain ⟨keptVars, keptCredentials⟩ := world.visit_of_unfinished unfinished
    exact ⟨keptVars.trans vars.symm, keptCredentials.trans credentials.symm⟩
  | ok done =>
    have finished : visit.finished = true := by simp [Visit.finished, isResult]
    obtain ⟨report, after⟩ := done
    change (world.visit visit).vars = after.vars ∧
      (world.visit visit).credentials = after.credentials
    -- The step was carried out in the context of the visit, which has what the world has.
    generalize isStep : visit.node.step = step at yields
    simp only [World.visit, finished, if_true, binding?, isStep]
    cases yields with
    | assertion | output | delay => exact ⟨vars.symm, credentials.symm⟩
    | assignment named =>
      rw [← vars]
      exact ⟨rfl, credentials.symm⟩
    | auth resolved =>
      rw [credentialsAfter, ← vars, resolved]
      exact ⟨rfl, rfl⟩
    | request filled replied =>
      rename_i data request response
      rw [vars, credentials] at filled
      have reply : (world.reply? visit).bind (·.result) = some (.ok response) := by
        simpa [reply?, isStep, request?, filled, Except.toOption] using replied
      rw [reply, ← vars]
      exact ⟨rfl, credentials.symm⟩

/-- Only an authentication that was done bears on the credentials. -/
theorem credentials_visit (unsigned : visit.finished = true → visit.node.kind ≠ .auth) :
    (world.visit visit).credentials = world.credentials := by
  cases finished : visit.finished with
  | false => exact (world.visit_of_unfinished finished).2
  | true =>
    have other := unsigned finished
    unfold Node.kind at other
    simp only [World.visit, finished, if_true]
    cases step : visit.node.step with
    | auth data => exact absurd (congrArg Step.kind step) other
    | request data | assertion data | delay duration | assignment data | output template => rfl

theorem credentials_visitAll {visits : List Visit}
    (unsigned : ∀ visit ∈ visits, visit.finished = true → visit.node.kind ≠ .auth) :
    (world.visitAll visits).credentials = world.credentials := by
  induction visits generalizing world with
  | nil => rfl
  | cons visit visits ih =>
    obtain ⟨first, later⟩ := List.forall_mem_cons.mp unsigned
    change ((world.visit visit).visitAll visits).credentials = world.credentials
    rw [ih later, credentials_visit first]

theorem Admits.resolve (admits : world.Admits visit) {data : Auth}
    (isAuth : visit.node.step = .auth data) (finished : visit.finished = true) :
    data.resolve world.vars = .ok (world.visit visit).credentials := by
  simp only [World.visit, finished, if_true, isAuth, credentialsAfter]
  unfold Visit.finished at finished
  split at finished
  · rename_i done isResult
    obtain ⟨report, after⟩ := done
    have does := admits.yields _ isResult
    rw [isAuth] at does
    cases does with
    | auth resolved =>
      rw [admits.vars] at resolved
      rw [resolved]
  · cases finished

/-- The request has the headers of its step, filled in, where the credentials have none of that
name; its query is that of the credentials. -/
structure Fills (world : World) (data : RequestStep) (request : Request) : Prop where
  filled : data.fill world.vars world.credentials = .ok request
  headers : ∀ name, request.headers.get? name =
    (world.credentials.bind (·.headers.get? name)).or
      ((data.headers.get? name).map world.vars.interpolate)
  query : request.query = world.credentials.elim [] (·.query)

theorem fills_of_fill {data : RequestStep} {request : Request}
    (filled : data.fill world.vars world.credentials = .ok request) : world.Fills data request := by
  have given := filled
  unfold RequestStep.fill at given
  dsimp only at given
  split at given
  · cases given
  · obtain ⟨body, -, same⟩ := Success.bind_iff.mp given
    cases same
    refine ⟨filled, ?_, rfl⟩
    intro name
    rw [← Dict.get?_map]
    cases world.credentials with
    | none => rfl
    | some slot =>
      exact Dict.get?_override (data.headers.map world.vars.interpolate) slot.headers name

theorem fills_of_request? {step : Step} {request : Request}
    (handed : world.request? step = some request) :
    ∃ data, step = .request data ∧ world.Fills data request := by
  cases step with
  | assertion | delay | assignment | output | auth => cases handed
  | request data =>
    cases filled : data.fill world.vars world.credentials with
    | error fault => simp [request?, filled, Except.toOption] at handed
    | ok other =>
      have same : other = request := by simpa [request?, filled, Except.toOption] using handed
      exact ⟨data, rfl, fills_of_fill (same ▸ filled)⟩

/-- A request that was sent is that of some visit, in the world of that visit. -/
theorem sent_visitAll {visits : List Visit} {one : Sent}
    (member : one ∈ (world.visitAll visits).transport.sent) :
    one ∈ world.transport.sent ∨ ∃ before visit after data, visits = before ++ visit :: after ∧
      visit.node.step = .request data ∧ (world.visitAll before).Fills data one.request := by
  induction visits using List.reverseRecOn with
  | nil => exact .inl member
  | append_singleton visits last ih =>
    have earlier (member : one ∈ (world.visitAll visits).transport.sent) :
        one ∈ world.transport.sent ∨ ∃ before visit after data,
          visits ++ [last] = before ++ visit :: after ∧ visit.node.step = .request data ∧
            (world.visitAll before).Fills data one.request := by
      rcases ih member with initially | ⟨before, visit, after, data, rfl, isRequest, fills⟩
      · exact .inl initially
      · exact .inr ⟨before, visit, after ++ [last], data, by simp, isRequest, fills⟩
    rw [visitAll_snoc] at member
    cases handed : (world.visitAll visits).request? last.node.step with
    | none =>
      simp only [World.visit, handed] at member
      exact earlier member
    | some request =>
      simp only [World.visit, handed] at member
      rcases Journey.sent_send (world.visitAll visits).transport request
        (last.context.limits.remaining last.time) with same | same
      · rw [same] at member
        exact earlier member
      · rw [same, List.mem_append, List.mem_singleton] at member
        rcases member with before | rfl
        · exact earlier before
        · obtain ⟨data, isRequest, fills⟩ := fills_of_request? handed
          exact .inr ⟨visits, last, [], data, rfl, isRequest, fills⟩

end World

end Scenario
