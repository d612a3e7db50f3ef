import Scenario.Comparison
import Scenario.Flow.Registry
import Scenario.Run.Guard
import Scenario.Run.Transport
/-!
Carrying out steps.

A step works on the context of its run: it reads and writes variables and puts credentials in
force. Delays and requests suspend the run; all other steps are done at once. `Step.start` starts a
step, and a suspended step is completed by `Suspended.look`.
-/
namespace Scenario

open Json (Value)

structure Context where
  vars : Variables
  credentials : Option Credentials
  timeout : UInt64
  deadline : Nat
  cancelled : Bool
deriving DecidableEq

namespace Context

def start (vars : Variables) (timeout : UInt64) (now : Nat) : Context :=
  ⟨vars, none, timeout, now + timeout.toNat, false⟩

def limits (context : Context) : Limits := ⟨context.deadline, context.cancelled⟩

def set (context : Context) (name : String) (value : Value) : Context :=
  { context with vars := context.vars.insert name value }

end Context

/-- What a step has to say when it is done: a line for the log, unless it keeps silent, with a
payload; and the result of an assertion. -/
structure StepReport where
  summary : Option String
  payload : Option Value
  branch : Option Bool
deriving DecidableEq

namespace StepReport

def silent : StepReport := ⟨none, none, none⟩

def ofDelay (duration : UInt64) : StepReport :=
  ⟨some ("Waiting for " ++ toString duration.toNat ++ " ms"), none, none⟩

def ofRequest (request : Request) (response : Response) : StepReport :=
  ⟨some (request.method.name ++ " " ++ request.url),
    some (.ofFields [("request", .ofFields [("type", .string request.method.name),
      ("url", .string request.url)]), ("response", response.encode)]),
    none⟩

def ofAssertion (left : Value) (operator : Operator) (right : Value) (holds : Bool) : StepReport :=
  ⟨some ("Assert : " ++ left.inline ++ " " ++ operator.name ++ " " ++ right.inline ++ " = "
      ++ labelText holds),
    some (.ofFields [("var1", left), ("operator", .string operator.name), ("var2", right),
      ("result", .bool holds)]),
    some holds⟩

def ofOutput (node : String) (payload : Value) : StepReport :=
  ⟨some (if payload = .null then "Output from '" ++ node ++ "'" else payload.inline),
    some payload, none⟩

end StepReport

inductive StepError where
  | requestFailed (failure : RequestFailure)
  | invalid (fault : StepFault)
  | interrupted (reason : Interruption)
  | defect (e : FlowError)
deriving DecidableEq

def StepError.message : StepError → String
  | .requestFailed failure => "Request failed: " ++ failure.message
  | .invalid fault => "Invalid node data: " ++ fault.message
  | .interrupted .cancelled => "Run cancelled"
  | .interrupted .timedOut => "Run deadline exceeded"
  | .defect e => "Engine defect: " ++ e.message

inductive Suspended where
  | delay (duration : UInt64) (operation : Operation Unit)
  | request (node : String) (request : Request)
    (operation : Operation (Except RequestFailure Response))

/-- What a step has to report and the context that it leaves behind, or why it was not done. -/
abbrev StepResult := Except StepError (StepReport × Context)

inductive Progress where
  | finished (result : StepResult)
  | suspended (step : Suspended)

namespace Suspended

def wake (step : Suspended) (limits : Limits) (now : Nat) : Nat :=
  match step with
  | .delay _ operation => operation.wake limits now
  | .request _ _ operation => operation.wake limits now

/-- What follows from the end of a request; a response becomes the variable of its node. -/
def finishRequest (context : Context) (node : String) (request : Request) :
    Except RequestFailure Response → StepResult
  | .ok response => .ok (.ofRequest request response, context.set node response.encode)
  | .error failure => .error (.requestFailed failure)

def look (step : Suspended) (context : Context) (now : Nat) : Progress :=
  match step with
  | .delay duration operation =>
    match operation.look context.limits now with
    | .waiting => .suspended step
    | .stopped reason => .finished (.error (.interrupted reason))
    | .answered () => .finished (.ok (.ofDelay duration, context))
  | .request node sent operation =>
    match operation.look context.limits now with
    | .waiting => .suspended step
    | .stopped reason => .finished (.error (.interrupted reason))
    | .answered result => .finished (finishRequest context node sent result)

/-- Waits until a suspended step is done or has failed, and says when that was. -/
def await (step : Suspended) (context : Context) (now : Nat) : Nat × StepResult :=
  let cancelAt := if context.cancelled then some now else none
  match step with
  | .delay duration operation =>
    match operation.await context.deadline cancelAt now with
    | (now, .ok ()) => (now, .ok (.ofDelay duration, context))
    | (now, .error reason) => (now, .error (.interrupted reason))
  | .request node sent operation =>
    match operation.await context.deadline cancelAt now with
    | (now, .ok result) => (now, finishRequest context node sent result)
    | (now, .error reason) => (now, .error (.interrupted reason))

end Suspended

namespace Step

def assert (data : Assertion) (context : Context) : StepResult :=
  let left := context.vars.resolveOperand data.left
  let right := context.vars.resolveOperand data.right
  .ok (.ofAssertion left data.operator right (data.operator.holds left right), context)

def assign (node : String) (data : Assignment) (context : Context) : StepResult :=
  if Text.isBlankText data.name then .error (.invalid (.emptyVariableName node))
  else .ok (.silent, context.set data.name (context.vars.resolveValue data.value))

def emit (node : String) (template : Value) (context : Context) : StepResult :=
  .ok (.ofOutput node (context.vars.resolveValue template), context)

def authenticate (data : Auth) (context : Context) : StepResult :=
  match data.resolve context.vars with
  | .ok credentials => .ok (.silent, { context with credentials })
  | .error fault => .error (.invalid fault)

/-- Starts a step; a request is sent with the time that is left as its limit. -/
def start (node : String) (context : Context) (now : Nat) (transport : Transport) :
    Step → Progress × Transport
  | .assertion data => (.finished (assert data context), transport)
  | .assignment data => (.finished (assign node data context), transport)
  | .output template => (.finished (emit node template context), transport)
  | .auth data => (.finished (authenticate data context), transport)
  | .delay duration =>
    match context.limits.interruption? now with
    | some reason => (.finished (.error (.interrupted reason)), transport)
    | none => (.suspended (.delay duration (.sleep duration.toNat now)), transport)
  | .request data =>
    match data.fill context.vars context.credentials with
    | .error fault => (.finished (.error (.invalid fault)), transport)
    | .ok filled =>
      match context.limits.interruption? now with
      | some reason => (.finished (.error (.interrupted reason)), transport)
      | none =>
        let (reply, transport) := transport.send filled (context.limits.remaining now)
        let due := timerEnd reply.latency now
        (.suspended (.request node filled ⟨due, reply.cancels, reply.result⟩), transport)

end Step

/-- Has the handler of a kind start the step of a node and looks at it for the first time. -/
def Node.start (handler : Kind) (node : Node) (context : Context) (now : Nat)
    (transport : Transport) : Progress × Transport :=
  if node.kind = handler then
    match node.step.start node.id context now transport with
    | (.suspended step, transport) => (step.look context now, transport)
    | started => started
  else (.finished (.error (.defect (.wrongStep handler node.kind))), transport)

end Scenario
