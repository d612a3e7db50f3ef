import Scenario.Flow.Error
import Scenario.Flow.Step
/-!
Handlers.

A handler knows how to write, read and carry out the steps of one kind. A registry says which
handler is in charge of each kind; it may have none, and the wrong one refuses the step.
-/
namespace Scenario

open Json (Value)

/-- For each kind the kind of steps that its handler can deal with. -/
structure Registry where
  handler : Kind → Option Kind

namespace Registry

/-- Every kind has its own handler. -/
def standard : Registry := ⟨some⟩

/-- Some kinds have their own handler and the others none. -/
def only (kinds : List Kind) : Registry :=
  ⟨fun kind => if kind ∈ kinds then some kind else none⟩

def contains (r : Registry) (kind : Kind) : Bool := (r.handler kind).isSome

def get (r : Registry) (kind : Kind) : Except FlowError Kind :=
  match r.handler kind with
  | some handler => .ok handler
  | none => .error (.unregistered kind)

/-- The same registry with the handler of one kind put in charge of another. -/
def replace (r : Registry) (kind handler : Kind) : Registry :=
  ⟨fun k => if k = kind then some handler else r.handler k⟩

def listing (r : Registry) : String :=
  "NodeRegistry \x7b handlers: ["
    ++ ", ".intercalate ((Kind.all.filter r.contains).map (·.title)) ++ "] \x7d"

end Registry

/-- The `data` field of a step, by the handler of a kind. -/
def encodeBy (handler : Kind) (step : Step) : Except FlowError Value :=
  if step.kind = handler then .ok step.encode else .error (.wrongStep handler step.kind)

/-- A node as an object, by the handler of a kind: metadata and reserved fields side by side. -/
def Node.encodeBy (handler : Kind) (node : Node) : Except FlowError Value := do
  let data ← Scenario.encodeBy handler node.step
  return .ofDict (((node.metadata.insert "id" (.string node.id)).insert "type"
    (.string handler.tag)).insert "data" data)

def metadataOf (reserved : List String) (fields : List (String × Value)) : Metadata :=
  .ofList (fields.filter fun field => field.1 ∉ reserved)

/-- The node that an object describes, by the handler of a kind. -/
def Node.decodeBy (handler : Kind) (fields : List (String × Value)) : Except FlowError Node := do
  match (Entries.get? fields "id").bind Value.asString? with
  | none => .error (.document .nodeWithoutId)
  | some id =>
    match Step.decode handler ((Entries.get? fields "data").getD .null) with
    | .error e => .error (.document (.badStep id handler e))
    | .ok step => .ok ⟨id, step, metadataOf reservedNodeKeys fields⟩

namespace Registry

def encodeNode (r : Registry) (node : Node) : Except FlowError Value := do
  node.encodeBy (← r.get node.kind)

/-- The node that a value describes; its `type` decides which handler reads it. -/
def decodeNode (r : Registry) : Value → Except FlowError Node
  | .object fields =>
    match (Entries.get? fields "type").bind Value.asString? with
    | none => .error (.document .nodeWithoutType)
    | some tag =>
      match Kind.ofTag? tag with
      | none => .error (.document (.unknownType tag))
      | some kind => do Node.decodeBy (← r.get kind) fields
  | _ => .error (.document .nodeWithoutType)

end Registry

end Scenario
