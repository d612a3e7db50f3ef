import Scenario.Proofs.Run.Guard
import Scenario.Proofs.Run.Yield
import Scenario.Proofs.Variables.Reference
/-!
Reading back what was written.

An assignment writes under any name that is not blank, and a request writes its response under the
id of its node, whatever that is. If the name is legible, what was written is read by it after every
success. For any other name there is a success after which it is not.
-/
namespace Scenario

open Json (Value)
open Variables (Legible reference)

section Conduct

variable {context : Context} {cancelAt : Option Nat} {now time : Nat} {transport left : Transport}

theorem Operation.answer_of_await {α : Type} {operation : Operation α} {deadline : Nat} {answer : α}
    (awaited : operation.await deadline cancelAt now = (time, .ok answer)) :
    operation.answer = some answer := by
  obtain ⟨moment, least⟩ := operation.exists_isLeast deadline cancelAt now
  obtain ⟨result, ended, same⟩ := await_of_isLeast least
  rw [awaited] at same
  cases same
  cases seen : operation.lookAt deadline cancelAt time with
  | waiting | stopped reason =>
    rw [seen] at ended
    cases ended
  | answered given =>
    rw [seen] at ended
    cases ended
    exact answer_of_look seen

/-- A step that had to wait results in what is listed, whenever the waiting ends. -/
theorem Suspended.yields_of_awaitUntil {step : Step} {node : String} {suspended : Suspended}
    (waits : step.start node context now transport = (.suspended suspended, left))
    {result : StepResult} (awaited : suspended.awaitUntil context cancelAt now = (time, result)) :
    step.Yields node context now transport result := by
  rcases Step.suspended_of_start waits with ⟨duration, rfl, -, rfl⟩ |
    ⟨data, request, rfl, filled, -, rfl⟩
  · rw [awaitUntil] at awaited
    split at awaited <;> cases awaited
    · exact .delay duration
    · exact .interrupted _ (.inl rfl)
  · rw [awaitUntil] at awaited
    split at awaited <;> cases awaited
    · rename_i answer ended
      have given := Operation.answer_of_await ended
      cases answer with
      | ok response => exact .request filled given
      | error failure => exact .request filled given
    · exact .interrupted _ (.inr rfl)

theorem Suspended.awaitUntil_of_look {step : Suspended} {result : StepResult}
    (same : context.cancelled = Operation.cancelledBy cancelAt now)
    (finished : step.look context now = .finished result) :
    step.awaitUntil context cancelAt now = (now, result) := by
  cases step with
  | delay duration operation | request node sent operation =>
    rw [look, Context.limits, same] at finished
    rw [awaitUntil]
    split at finished <;> rename_i seen <;> cases finished <;>
      rw [Operation.await_of_ended (by rw [Operation.lookAt, seen]; rfl)]

theorem Node.yields_of_carriedOut {node : Node} {result : StepResult}
    (done : node.carriedOut context cancelAt now transport = ((time, result), left)) :
    node.step.Yields node.id { context with cancelled := Operation.cancelledBy cancelAt now } now
      transport result := by
  rw [carriedOut, start, if_pos rfl] at done
  cases started : node.step.start node.id
      { context with cancelled := Operation.cancelledBy cancelAt now } now transport with
  | mk progress behind =>
    rw [started] at done
    cases progress with
    | finished ended =>
      cases done
      exact (Step.yields_of_start started).1
    | suspended step =>
      dsimp only at done
      cases seen : step.look
          { context with cancelled := Operation.cancelledBy cancelAt now } now with
      | finished ended =>
        rw [seen] at done
        cases done
        exact Suspended.yields_of_awaitUntil started (Suspended.awaitUntil_of_look rfl seen)
      | suspended other =>
        obtain rfl := (Suspended.wake_of_look seen).1
        rw [seen] at done
        exact Suspended.yields_of_awaitUntil started (congrArg Prod.fst done)

end Conduct

/-- The node is carried out with success, whether the run is to be cancelled later or not. -/
def Node.Done (node : Node) (context : Context) (now : Nat) (transport : Transport)
    (report : StepReport) (after : Context) : Prop :=
  ∃ cancelAt time left,
    node.carriedOut context cancelAt now transport = ((time, .ok (report, after)), left)

/-- Whatever is assigned to the name can be read by it. -/
def AssignmentsReadBack (name : String) : Prop :=
  ∀ (node : Node) (data : Assignment), node.step = .assignment data → data.name = name →
    ∀ context now transport report after, node.Done context now transport report after →
      after.vars.resolveOperand (reference name) = context.vars.resolveValue data.value

/-- The response to any request of a node with the id can be read by it. -/
def RequestsReadBack (id : String) : Prop :=
  ∀ (node : Node) (data : RequestStep), node.step = .request data → node.id = id →
    ∀ context now transport report after, node.Done context now transport report after →
      ∃ request response, data.fill context.vars context.credentials = .ok request ∧
        (transport.send request (context.limits.remaining now)).1.result = some (.ok response) ∧
        report = .ofRequest request response ∧
        after.vars.resolveOperand (reference id) = response.encode

theorem Context.resolveOperand_set {name : String} (legible : Legible name) (context : Context)
    (v : Value) : (context.set name v).vars.resolveOperand (reference name) = v := by
  rw [legible.resolveOperand_reference, Context.set, Dict.get?_insert, if_pos rfl]
  rfl

theorem assignmentsReadBack_of_legible {name : String} (legible : Legible name) :
    AssignmentsReadBack name := by
  rintro ⟨id, step, metadata⟩ data rfl rfl context now transport report after ⟨_, _, _, done⟩
  have does := Node.yields_of_carriedOut done
  cases does with
  | assignment => exact Context.resolveOperand_set legible _ _

theorem requestsReadBack_of_legible {id : String} (legible : Legible id) : RequestsReadBack id := by
  rintro ⟨id, step, metadata⟩ data rfl rfl context now transport report after ⟨_, _, _, done⟩
  have does := Node.yields_of_carriedOut done
  cases does with
  | request filled answered =>
    exact ⟨_, _, filled, answered, rfl, Context.resolveOperand_set legible _ _⟩

/-- The only variable of a run is not read by an illegible name. -/
theorem resolveOperand_alone {name : String} (illegible : ¬ Legible name) (v : Value) :
    let vars : Variables := Dict.empty.insert name v
    vars.resolveOperand (reference name) = .null ∨
      ∃ text, vars.resolveOperand (reference name) = .string text := by
  refine Variables.resolveOperand_of_illegible illegible fun other apart => ?_
  rw [Dict.get?_insert, if_neg apart.symm]
  rfl

-- A run that has just begun is enough to see what an illegible name does: nothing else is bound.

def assigningNode (name : String) : Node := ⟨"set", .assignment ⟨name, .bool true⟩, {}⟩

theorem assigningNode_done {name : String} (named : Text.isBlankText name = false) :
    (assigningNode name).Done (.start {} 1 0) 0 .offline .silent
      ((Context.start {} 1 0).set name (.bool true)) := by
  refine ⟨none, 0, .offline, ?_⟩
  rw [assigningNode, Node.carriedOut, Node.start, if_pos rfl]
  dsimp only [Step.start, Step.assign]
  rw [named]
  rfl

theorem legible_of_assignmentsReadBack {name : String} (named : Text.isBlankText name = false)
    (read : AssignmentsReadBack name) : Legible name := by
  by_contra illegible
  have same := read _ ⟨name, .bool true⟩ rfl rfl _ _ _ _ _ (assigningNode_done named)
  rcases resolveOperand_alone illegible (.bool true) with null | ⟨text, string⟩
  · cases null.symm.trans same
  · cases string.symm.trans same

def askingNode (id : String) : Node := ⟨id, .request ⟨.get, "http://localhost", {}, .none⟩, {}⟩

def emptyResponse : Response := ⟨200, "OK", {}, .null⟩

def respondingOnce : Transport := .scripted [⟨0, false, some (.ok emptyResponse)⟩] []

theorem askingNode_done (id : String) :
    (askingNode id).Done (.start {} 1 0) 0 respondingOnce
      (.ofRequest ⟨.get, "http://localhost", {}, [], .empty⟩ emptyResponse)
      ((Context.start {} 1 0).set id emptyResponse.encode) :=
  ⟨none, 0, _, rfl⟩

theorem legible_of_requestsReadBack {id : String} (read : RequestsReadBack id) : Legible id := by
  by_contra illegible
  obtain ⟨request, response, -, sent, -, same⟩ := read _ _ rfl rfl _ _ _ _ _ (askingNode_done id)
  obtain rfl : emptyResponse = response := Except.ok.inj (Option.some.inj sent)
  rcases resolveOperand_alone illegible emptyResponse.encode with null | ⟨text, string⟩
  · cases null.symm.trans same
  · cases string.symm.trans same

/-- Exactly the legible names are those by which everything that is assigned to them can be read,
and exactly the legible ids those by which every response can. -/
theorem read_back_iff_legible :
    (∀ name, Text.isBlankText name = false → (AssignmentsReadBack name ↔ Legible name)) ∧
      ∀ id, RequestsReadBack id ↔ Legible id :=
  ⟨fun _ named => ⟨legible_of_assignmentsReadBack named, assignmentsReadBack_of_legible⟩,
    fun _ => ⟨legible_of_requestsReadBack, requestsReadBack_of_legible⟩⟩

theorem token_read_back :
    Text.isBlankText "token" = false ∧
      ((Context.start {} 1 0).set "token" (.bool true)).vars.resolveOperand "${token}" =
        .bool true ∧
      ((Context.start {} 1 0).set "token" emptyResponse.encode).vars.resolveOperand "${token}" =
        emptyResponse.encode := by
  have named : Text.isBlankText "token" = false := by decide
  have legible : Legible "token" := ⟨by decide, by simp [Text.isBlank]⟩
  have assigned := (read_back_iff_legible.1 "token" named).mpr legible _ _ rfl rfl _ _ _ _ _
    (assigningNode_done named)
  obtain ⟨request, response, -, sent, -, stored⟩ :=
    (read_back_iff_legible.2 "token").mpr legible _ _ rfl rfl _ _ _ _ _ (askingNode_done "token")
  obtain rfl : emptyResponse = response := Except.ok.inj (Option.some.inj sent)
  exact ⟨named, assigned, stored⟩

/-- With a point in it, a name that was written is taken for a path. -/
theorem dotted_not_read_back :
    Text.isBlankText "a.b" = false ∧
      (assigningNode "a.b").Done (.start {} 1 0) 0 .offline .silent
        ((Context.start {} 1 0).set "a.b" (.bool true)) ∧
      ((Context.start {} 1 0).set "a.b" (.bool true)).vars.resolveOperand "${a.b}" = .null ∧
      (Context.start {} 1 0).vars.resolveValue (.bool true) = .bool true ∧
      (askingNode "a.b").Done (.start {} 1 0) 0 respondingOnce
        (.ofRequest ⟨.get, "http://localhost", {}, [], .empty⟩ emptyResponse)
        ((Context.start {} 1 0).set "a.b" emptyResponse.encode) ∧
      ((Context.start {} 1 0).set "a.b" emptyResponse.encode).vars.resolveOperand "${a.b}" = .null ∧
      emptyResponse.encode ≠ .null :=
  ⟨by decide, assigningNode_done (by decide), by decide, rfl, askingNode_done "a.b", by decide,
    nofun⟩

end Scenario
