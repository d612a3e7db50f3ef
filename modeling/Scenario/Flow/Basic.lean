import Scenario.Json.Value
/-!
Flows.

A flow is a list of steps, the nodes, and a list of edges that say which step comes next. The
edges that leave an assertion are labelled with its result. Whatever else a document says about a
node or an edge, such as its position on a canvas, is kept as metadata and never looked at.
-/
namespace Scenario

open Json (Value)

inductive Kind where
  | request
  | assertion
  | delay
  | assignment
  | output
  | auth
deriving DecidableEq, Repr

namespace Kind

def all : List Kind := [.request, .assertion, .delay, .assignment, .output, .auth]

def tag : Kind → String
  | .request => "requestNode"
  | .assertion => "assertNode"
  | .delay => "delayNode"
  | .assignment => "setVarNode"
  | .output => "outputNode"
  | .auth => "authNode"

def ofTag? (tag : String) : Option Kind := all.find? (·.tag = tag)

def title : Kind → String
  | .request => "Request"
  | .assertion => "Assert"
  | .delay => "Delay"
  | .assignment => "SetVar"
  | .output => "Output"
  | .auth => "Auth"

end Kind

inductive Method where
  | get
  | post
  | put
  | delete
  | patch
  | head
  | options
deriving DecidableEq, Repr

namespace Method

def all : List Method := [.get, .post, .put, .delete, .patch, .head, .options]

def name : Method → String
  | .get => "GET"
  | .post => "POST"
  | .put => "PUT"
  | .delete => "DELETE"
  | .patch => "PATCH"
  | .head => "HEAD"
  | .options => "OPTIONS"

end Method

/-- The body of a request as a flow describes it: JSON and plain text are templates, an upload is
one file given by a data URL. -/
inductive BodyTemplate where
  | none
  | json (template : String)
  | text (template : String)
  | upload (key value name : String)
deriving DecidableEq

structure RequestStep where
  method : Method
  url : String
  headers : Dict String
  body : BodyTemplate
deriving DecidableEq

inductive Operator where
  | equals
  | notEquals
  | greaterThan
  | lessThan
  | contains
deriving DecidableEq, Repr

namespace Operator

def all : List Operator := [.equals, .notEquals, .greaterThan, .lessThan, .contains]

def name : Operator → String
  | .equals => "equals"
  | .notEquals => "notEquals"
  | .greaterThan => "greaterThan"
  | .lessThan => "lessThan"
  | .contains => "contains"

end Operator

structure Assertion where
  left : String
  operator : Operator
  right : String
deriving DecidableEq

structure Assignment where
  name : String
  value : Value
deriving DecidableEq

inductive Placement where
  | header
  | query
deriving DecidableEq, Repr

namespace Placement

def all : List Placement := [.header, .query]

def name : Placement → String
  | .header => "header"
  | .query => "query"

end Placement

/-- How the requests that follow prove who sends them. -/
inductive Auth where
  | none
  | basic (username password : String)
  | bearer (token : String)
  | apiKey (key value : String) (placement : Placement)
deriving DecidableEq

/-- What a node does; a delay is in milliseconds. -/
inductive Step where
  | request (data : RequestStep)
  | assertion (data : Assertion)
  | delay (duration : UInt64)
  | assignment (data : Assignment)
  | output (template : Value)
  | auth (data : Auth)
deriving DecidableEq

def Step.kind : Step → Kind
  | .request _ => .request
  | .assertion _ => .assertion
  | .delay _ => .delay
  | .assignment _ => .assignment
  | .output _ => .output
  | .auth _ => .auth

abbrev Metadata := Dict Value

structure Node where
  id : String
  step : Step
  metadata : Metadata
deriving DecidableEq

def Node.kind (node : Node) : Kind := node.step.kind

/-- An edge; `label` is the result of an assertion for which the edge is taken. -/
structure Edge where
  id : String
  source : String
  target : String
  label : Option Bool
  metadata : Metadata
deriving DecidableEq

def labelText (label : Bool) : String := if label then "true" else "false"

structure Flow where
  nodes : List Node
  edges : List Edge
deriving DecidableEq

namespace Flow

def edgesFrom (flow : Flow) (id : String) : List Edge := flow.edges.filter (·.source = id)

def node? (flow : Flow) (id : String) : Option Node := flow.nodes.find? (·.id = id)

end Flow

def reservedNodeKeys : List String := ["id", "type", "data"]

def reservedEdgeKeys : List String := ["id", "source", "target", "label"]

end Scenario
