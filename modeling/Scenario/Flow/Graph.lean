import Scenario.Flow.Basic
/-!
Graphs that can be run.

`Graph.build` accepts a flow if its ids are distinct, its edges end at its nodes, every assertion
is left by edges with different labels and every other node by at most one edge without a label,
exactly one node is entered by no edge, and every loop passes through an assertion. The rules are
checked in this order and the first that is broken is reported.
-/
namespace Scenario

inductive GraphFault where
  | empty
  | reservedKey (owner key : String)
  | duplicateNode (id : String)
  | duplicateEdge (id : String)
  | unknownNode (edge node : String)
  | tooManyEdges (node : String) (kind : Kind) (count : Nat)
  | unexpectedLabel (edge node : String) (kind : Kind)
  | missingLabel (edge node : String)
  | duplicateLabel (node : String) (label : Bool)
  | noEntry
  | severalEntries (nodes : List String)
  | cycle
deriving DecidableEq, Repr

namespace GraphFault

def message : GraphFault → String
  | .empty => "Flow has no nodes"
  | .duplicateNode id => "Duplicate node id '" ++ id ++ "'"
  | .duplicateEdge id => "Duplicate edge id '" ++ id ++ "'"
  | .unknownNode edge node => "Edge '" ++ edge ++ "' references unknown node '" ++ node ++ "'"
  | .noEntry => "Flow has no entry node (every node has an incoming edge)"
  | .severalEntries nodes => "Flow has multiple entry nodes: " ++ ", ".intercalate nodes
  | .tooManyEdges node kind count =>
    "Node '" ++ node ++ "' (" ++ kind.tag ++ ") has " ++ toString count
      ++ " outgoing edges, at most one is allowed"
  | .unexpectedLabel edge node kind =>
    "Edge '" ++ edge ++ "' leaving " ++ kind.tag ++ " node '" ++ node
      ++ "' must not carry a branch label"
  | .missingLabel edge node =>
    "Edge '" ++ edge ++ "' leaving assert node '" ++ node ++ "' needs a true/false label"
  | .duplicateLabel node label =>
    "Assert node '" ++ node ++ "' has more than one '" ++ labelText label ++ "' edge"
  | .cycle => "Cycle detected through non-branching edges"
  | .reservedKey owner key => "Metadata of '" ++ owner ++ "' uses reserved key '" ++ key ++ "'"

end GraphFault

namespace Flow

/-- The first of some keys that a map binds is reported with its owner. -/
def checkKeys (reserved : List String) (owner : String) (metadata : Metadata) :
    Except GraphFault Unit :=
  match reserved.find? metadata.contains with
  | some key => .error (.reservedKey owner key)
  | none => .ok ()

/-- Nodes with free metadata and ids that differ from each other and from those seen before. -/
def checkNodes (seen : List String) : List Node → Except GraphFault Unit
  | [] => .ok ()
  | node :: rest => do
    checkKeys reservedNodeKeys node.id node.metadata
    if node.id ∈ seen then .error (.duplicateNode node.id)
    else checkNodes (node.id :: seen) rest

/-- Edges with free metadata, distinct ids, and ends among the nodes. -/
def checkEdges (nodes : List String) (seen : List String) : List Edge → Except GraphFault Unit
  | [] => .ok ()
  | edge :: rest => do
    checkKeys reservedEdgeKeys edge.id edge.metadata
    if edge.id ∈ seen then .error (.duplicateEdge edge.id)
    else if edge.source ∉ nodes then .error (.unknownNode edge.id edge.source)
    else if edge.target ∉ nodes then .error (.unknownNode edge.id edge.target)
    else checkEdges nodes (edge.id :: seen) rest

/-- The edges that leave an assertion: each has a label, and no two have the same. -/
def checkLabels (node : String) (seen : List Bool) : List Edge → Except GraphFault Unit
  | [] => .ok ()
  | edge :: rest =>
    match edge.label with
    | none => .error (.missingLabel edge.id node)
    | some label =>
      if label ∈ seen then .error (.duplicateLabel node label)
      else checkLabels node (label :: seen) rest

/-- The edges that leave one node, the last one of the flow first. -/
def checkLeaving (flow : Flow) (node : Node) : Except GraphFault Unit :=
  let leaving := (flow.edgesFrom node.id).reverse
  if node.kind = .assertion then checkLabels node.id [] leaving
  else if 1 < leaving.length then .error (.tooManyEdges node.id node.kind leaving.length)
  else
    match leaving.find? (·.label.isSome) with
    | some edge => .error (.unexpectedLabel edge.id node.id node.kind)
    | none => .ok ()

def entries (flow : Flow) : List Node :=
  flow.nodes.filter fun node => flow.edges.all (·.target ≠ node.id)

def entry (flow : Flow) : Except GraphFault Node :=
  match flow.entries with
  | [] => .error .noEntry
  | [node] => .ok node
  | several => .error (.severalEntries (several.map (·.id)))

def plainEdges (flow : Flow) : List Edge :=
  flow.edges.filter fun edge =>
    flow.nodes.any fun node => node.id = edge.source ∧ node.kind ≠ .assertion

/-- Whether so many edges can be walked one after the other from a node. -/
def walks (edges : List Edge) : Nat → String → Bool
  | 0, _ => true
  | length + 1, id => edges.any fun edge => edge.source = id && walks edges length edge.target

/-- A walk with as many edges as there are nodes visits some node twice; without a cycle there is
none. -/
def hasPlainCycle (flow : Flow) : Bool :=
  flow.nodes.any fun node => walks flow.plainEdges flow.nodes.length node.id

end Flow

/-- A flow that can be run, with the node at which a run starts. -/
structure Graph where
  flow : Flow
  entry : Node
deriving DecidableEq

namespace Graph

def build (flow : Flow) : Except GraphFault Graph := do
  if flow.nodes.isEmpty then .error .empty
  else do
    Flow.checkNodes [] flow.nodes
    Flow.checkEdges (flow.nodes.map (·.id)) [] flow.edges
    flow.nodes.forM flow.checkLeaving
    let entry ← flow.entry
    if flow.hasPlainCycle then .error .cycle else .ok ⟨flow, entry⟩

def nodes (graph : Graph) : List Node := graph.flow.nodes

def edges (graph : Graph) : List Edge := graph.flow.edges

def node? (graph : Graph) (id : String) : Option Node := graph.flow.node? id

def edgesFrom (graph : Graph) (id : String) : List Edge := graph.flow.edgesFrom id

end Graph

end Scenario
