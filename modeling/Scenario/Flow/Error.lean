import Scenario.Flow.Graph
import Scenario.Json.Decode
import Scenario.Json.Fault
import Scenario.Json.Printer
import Scenario.Disk.Fault
/-!
Why a flow cannot be loaded, checked or stored.
-/
namespace Scenario

open Json (Value DecodeError SyntaxError)

inductive DocumentFault where
  | notJson (e : SyntaxError)
  | notAnObject
  | noNodes
  | nodeWithoutType
  | unknownType (tag : String)
  | nodeWithoutId
  | badStep (node : String) (kind : Kind) (e : DecodeError)
  | edgesNotAnArray
  | edgeNotAnObject
  | edgeWithout (field : String)
  | badLabel (edge : String) (label : Value)
deriving DecidableEq

namespace DocumentFault

/-- What goes before the reason why a document is no flow. -/
def heading : String := "Malformed flow document: "

def message : DocumentFault → String
  | .notJson e => "invalid JSON: " ++ e.message
  | .notAnObject => "flow document is not a JSON object"
  | .noNodes => "flow document has no 'nodes' array"
  | .nodeWithoutType => "node entry is missing a string 'type'"
  | .unknownType tag => "unknown node type '" ++ tag ++ "'"
  | .nodeWithoutId => "node entry is missing a string 'id'"
  | .badStep node kind e =>
    "node '" ++ node ++ "': " ++ heading ++ "invalid " ++ kind.tag ++ " data: " ++ e.message
  | .edgesNotAnArray => "flow document 'edges' is not an array"
  | .edgeNotAnObject => "edge entry is not an object"
  | .edgeWithout field => "edge entry is missing a string '" ++ field ++ "'"
  | .badLabel edge label => "edge '" ++ edge ++ "' has an invalid label " ++ label.compact

end DocumentFault

inductive FlowError where
  | graph (fault : GraphFault)
  | document (fault : DocumentFault)
  | unregistered (kind : Kind)
  | wrongStep (expected found : Kind)
  | invalidName (name : String)
  | disk (fault : DiskFault)
deriving DecidableEq

def FlowError.message : FlowError → String
  | .graph fault => "Invalid flow graph: " ++ fault.message
  | .document fault => DocumentFault.heading ++ fault.message
  | .unregistered kind => "No handler registered for node type '" ++ kind.tag ++ "'"
  | .wrongStep expected found =>
    "Handler for '" ++ expected.tag ++ "' received a '" ++ found.tag ++ "' payload"
  | .invalidName name => "Invalid name '" ++ name ++ "'"
  | .disk fault => "I/O error: " ++ fault.message

end Scenario
