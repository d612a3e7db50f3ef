import Scenario.Run.Handler
/-!
Sessions.

A session is a context by itself, whose steps are carried out one after the other by whoever holds
it. Its clock stands still except while the session waits.
-/
namespace Scenario

open Json (Value)

structure Session where
  context : Context
  clock : Nat
  transport : Transport

namespace Session

def start (vars : Variables) (timeout : UInt64) (transport : Transport) : Session :=
  ⟨.start vars timeout 0, 0, transport⟩

def cancel (session : Session) : Session := { session with context.cancelled := true }

def set (session : Session) (name : String) (value : Value) : Session :=
  { session with context := session.context.set name value }

/-- Waits, come what may. -/
def sleep (session : Session) (duration : Nat) : Session :=
  { session with clock := timerEnd duration session.clock }

def checkpoint (session : Session) : Option Interruption :=
  session.context.limits.interruption? session.clock

/-- The session after a step that was not done; if the step was cancelled, so is the session. -/
def after (session : Session) (e : StepError) : Session :=
  if e = .interrupted .cancelled then session.cancel else session

def guard (session : Session) (duration : Nat) : Except Interruption Unit × Session :=
  let cancelAt := if session.context.cancelled then some session.clock else none
  let (clock, result) :=
    (Operation.sleep duration session.clock).await session.context.deadline cancelAt session.clock
  (result, { session with clock })

/-- Has the handler of a kind carry out the step of a node to its end. -/
def carryOut (session : Session) (handler : Kind) (node : Node) :
    Except StepError StepReport × Session :=
  let (progress, transport) :=
    node.start handler session.context session.clock session.transport
  let (clock, result) :=
    match progress with
    | .suspended step => step.await session.context session.clock
    | .finished result => (session.clock, result)
  let session := { session with clock, transport }
  match result with
  | .ok (report, context) => (.ok report, { session with context })
  | .error e => (.error e, session.after e)

end Session

end Scenario
