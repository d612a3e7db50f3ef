import Scenario.Flow.Registry
import Scenario.Json.Parser
import Scenario.Text.Blank
/-!
Flow documents.

A document is an object with the arrays `nodes` and `edges`; without `edges` a flow has none. Null,
an empty object and a blank text stand for a flow that has not been written yet, which is `none`
here and differs from a flow without nodes.
-/
namespace Scenario

open Json (Value)

def Edge.encode (edge : Edge) : Value :=
  let document := ((edge.metadata.insert "id" (.string edge.id)).insert "source"
    (.string edge.source)).insert "target" (.string edge.target)
  .ofDict
    (match edge.label with
    | some label => document.insert "label" (.string (labelText label))
    | none => document)

def labelNames : List (String × Bool) := [("true", true), ("false", false)]

/-- A label may be missing, a boolean, or the name of one. -/
def decodeLabel (edge : String) : Option Value → Except FlowError (Option Bool)
  | none | some .null => .ok none
  | some (.bool b) => .ok (some b)
  | some v =>
    match Json.Decoder.choice .plain labelNames v with
    | .ok label => .ok (some label)
    | .error _ => .error (.document (.badLabel edge v))

def Edge.decode : Value → Except FlowError Edge
  | .object fields => do
    let field (name : String) : Except FlowError String :=
      match (Entries.get? fields name).bind Value.asString? with
      | some s => .ok s
      | none => .error (.document (.edgeWithout name))
    let id ← field "id"
    let source ← field "source"
    let target ← field "target"
    let label ← decodeLabel id (Entries.get? fields "label")
    return ⟨id, source, target, label, metadataOf reservedEdgeKeys fields⟩
  | _ => .error (.document .edgeNotAnObject)

namespace Registry

/-- The document of a flow, or of one that has not been written yet. -/
def encode (r : Registry) : Option Flow → Except FlowError Value
  | none => .ok (.object [])
  | some flow => do
    let nodes ← flow.nodes.mapM r.encodeNode
    return .ofFields [("nodes", .array nodes), ("edges", .array (flow.edges.map Edge.encode))]

def decodeEdges : Option Value → Except FlowError (List Edge)
  | none | some .null => .ok []
  | some (.array edges) => edges.mapM Edge.decode
  | some _ => .error (.document .edgesNotAnArray)

def decode (r : Registry) : Value → Except FlowError (Option Flow)
  | .null | .object [] => .ok none
  | .object fields =>
    match (Entries.get? fields "nodes").bind Value.asArray? with
    | none => .error (.document .noNodes)
    | some entries => do
      let nodes ← entries.mapM r.decodeNode
      let edges ← decodeEdges (Entries.get? fields "edges")
      return some ⟨nodes, edges⟩
  | _ => .error (.document .notAnObject)

def write (r : Registry) (flow : Option Flow) : Except FlowError String := do
  return (← r.encode flow).pretty

def read (r : Registry) (text : String) : Except FlowError (Option Flow) :=
  if Text.isBlankText text then .ok none
  else
    match Json.parse text with
    | .error e => .error (.document (.notJson e))
    | .ok document => r.decode document

end Registry

end Scenario
