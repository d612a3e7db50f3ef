import Scenario.Proofs.Dict
import Scenario.Proofs.Digraph
import Scenario.Proofs.Graph.Exits
/-!
Graphs with numbers.

A graph can be kept as a directed graph by numbers and a map from the ids of its nodes to their
numbers, which are filled node by node and edge by edge, with every check made on the way. Such a
graph is built exactly if the other one is, fails with the same faults, and shows the same nodes and
edges, although the edges at a node are listed with the newest first. Loops are looked for in the flow
that the graph holds.
-/
namespace Scenario

open Success (Agree)

def Edge.at (edge : Edge) : Direction → String
  | .outgoing => edge.source
  | .incoming => edge.target

structure Indexed (library : Adjacency Node Edge) where
  graph : library.Graph
  /-- The numbers of the nodes by their ids. -/
  numbers : Dict Nat
  entry : Nat

namespace Indexed

variable {library : Adjacency Node Edge}

/-- Nodes go into the graph as long as their metadata are free and their ids are new. -/
def addNodes (graph : library.Graph) (numbers : Dict Nat) :
    List Node → Except GraphFault (library.Graph × Dict Nat)
  | [] => .ok (graph, numbers)
  | node :: rest => do
    Flow.checkKeys reservedNodeKeys node.id node.metadata
    if numbers.contains node.id then .error (.duplicateNode node.id)
    else
      addNodes (library.addVertex graph node)
        (numbers.insert node.id (library.vertices graph).length) rest

def lookUp (numbers : Dict Nat) (edge : Edge) (direction : Direction) : Except GraphFault Nat :=
  match numbers.get? (edge.at direction) with
  | some number => .ok number
  | none => .error (.unknownNode edge.id (edge.at direction))

def arc (source target : Nat) (edge : Edge) : Arc Edge where
  weight := edge
  ends
    | .outgoing => source
    | .incoming => target

/-- Edges go into the graph as long as their metadata are free, their ids are new and their ends are
numbered. -/
def addEdges (graph : library.Graph) (numbers : Dict Nat) (seen : List String) :
    List Edge → Except GraphFault library.Graph
  | [] => .ok graph
  | edge :: rest => do
    Flow.checkKeys reservedEdgeKeys edge.id edge.metadata
    if edge.id ∈ seen then .error (.duplicateEdge edge.id)
    else
      let source ← lookUp numbers edge .outgoing
      let target ← lookUp numbers edge .incoming
      addEdges (library.addArc graph (arc source target edge)) numbers (edge.id :: seen) rest

/-- The edges that leave a node or enter it, the newest first. -/
def edgesAt (graph : library.Graph) (direction : Direction) (number : Nat) : List Edge :=
  (library.arcsAt graph direction number).map (·.1.weight)

def checkLeaving (graph : library.Graph) (number : Nat) : Except GraphFault Unit :=
  match (library.vertices graph)[number]? with
  | none => .ok ()
  | some node =>
    let leaving := edgesAt graph .outgoing number
    if node.kind = .assertion then Flow.checkLabels node.id [] leaving
    else if 1 < leaving.length then .error (.tooManyEdges node.id node.kind leaving.length)
    else
      match leaving.find? (·.label.isSome) with
      | some edge => .error (.unexpectedLabel edge.id node.id node.kind)
      | none => .ok ()

def numbersOf (graph : library.Graph) : List Nat := List.range (library.vertices graph).length

def roots (graph : library.Graph) : List Nat :=
  (numbersOf graph).filter fun number => (edgesAt graph .incoming number).isEmpty

def findEntry (graph : library.Graph) : Except GraphFault Nat :=
  match roots graph with
  | [] => .error .noEntry
  | [number] => .ok number
  | several => .error (.severalEntries
      (several.filterMap fun number => (library.vertices graph)[number]?.map (·.id)))

/-- The nodes and edges in the order in which they were added. -/
def flowOf (graph : library.Graph) : Flow :=
  ⟨library.vertices graph, (library.arcs graph).map (·.weight)⟩

def build (library : Adjacency Node Edge) (flow : Flow) : Except GraphFault (Indexed library) :=
  if flow.nodes.isEmpty then .error .empty
  else do
    let (graph, numbers) ← addNodes library.empty ∅ flow.nodes
    let graph ← addEdges graph numbers [] flow.edges
    (numbersOf graph).forM (checkLeaving graph)
    let entry ← findEntry graph
    if (flowOf graph).hasPlainCycle then .error .cycle else .ok ⟨graph, numbers, entry⟩

def flow (indexed : Indexed library) : Flow := flowOf indexed.graph

def nodes (indexed : Indexed library) : List Node := indexed.flow.nodes

def edges (indexed : Indexed library) : List Edge := indexed.flow.edges

def entryNode? (indexed : Indexed library) : Option Node :=
  (library.vertices indexed.graph)[indexed.entry]?

def node? (indexed : Indexed library) (id : String) : Option Node := do
  (library.vertices indexed.graph)[← indexed.numbers.get? id]?

/-- The edges that leave a node, sorted by their numbers. -/
def edgesFrom (indexed : Indexed library) (id : String) : List Edge :=
  match indexed.numbers.get? id with
  | none => []
  | some number =>
    ((library.arcsAt indexed.graph .outgoing number).mergeSort fun a b => decide (a.2 ≤ b.2)).map
      (·.1.weight)

/-- What a graph with numbers has in common with the flow that went into it so far. -/
structure Entered (graph : library.Graph) (numbers : Dict Nat) (flow : Flow) : Prop where
  nodes_eq : library.vertices graph = flow.nodes
  edges_eq : (library.arcs graph).map (·.weight) = flow.edges
  numbered : ∀ id number, numbers.get? id = some number ↔
    ∃ node, flow.nodes[number]? = some node ∧ node.id = id
  ends : ∀ arc ∈ library.arcs graph, ∀ direction,
    numbers.get? (arc.weight.at direction) = some (arc.ends direction)

variable {graph : library.Graph} {numbers : Dict Nat} {flow : Flow}

theorem getElem?_concat_iff {α : Type} (items : List α) (last item : α) (number : Nat) :
    (items ++ [last])[number]? = some item ↔
      items[number]? = some item ∨ number = items.length ∧ last = item := by
  grind

namespace Entered

theorem empty : Entered library.empty ∅ ⟨[], []⟩ where
  nodes_eq := library.vertices_empty
  edges_eq := by rw [library.arcs_empty, List.map_nil]
  numbered := by simp [Dict.get?_empty]
  ends := by simp [library.arcs_empty]

theorem number_of (entered : Entered graph numbers flow) {number : Nat} {node : Node}
    (here : flow.nodes[number]? = some node) : numbers.get? node.id = some number :=
  (entered.numbered node.id number).mpr ⟨node, here, rfl⟩

theorem lt_of_number (entered : Entered graph numbers flow) {id : String} {number : Nat}
    (found : numbers.get? id = some number) : number < (library.vertices graph).length := by
  obtain ⟨node, here, -⟩ := (entered.numbered id number).mp found
  rw [entered.nodes_eq]
  exact (List.getElem?_eq_some_iff.mp here).1

theorem mem_ids_iff (entered : Entered graph numbers flow) (id : String) :
    id ∈ flow.nodes.map (·.id) ↔ ∃ number, numbers.get? id = some number := by
  rw [List.mem_map]
  constructor
  · rintro ⟨node, member, rfl⟩
    obtain ⟨number, here⟩ := List.getElem?_of_mem member
    exact ⟨number, entered.number_of here⟩
  · rintro ⟨number, found⟩
    obtain ⟨node, here, same⟩ := (entered.numbered id number).mp found
    exact ⟨node, List.mem_of_getElem? here, same⟩

theorem nodup_ids (entered : Entered graph numbers flow) : (flow.nodes.map (·.id)).Nodup := by
  rw [List.nodup_iff_getElem?_ne_getElem?]
  intro first second before bound same
  rw [List.length_map] at bound
  have earlier := List.getElem?_eq_getElem (Nat.lt_trans before bound)
  have later := List.getElem?_eq_getElem bound
  rw [List.getElem?_map, List.getElem?_map, earlier, later, Option.map_some, Option.map_some,
    Option.some_inj] at same
  have numbers_eq := entered.number_of earlier
  rw [same, entered.number_of later, Option.some_inj] at numbers_eq
  exact Nat.ne_of_gt before numbers_eq

theorem flowOf_eq (entered : Entered graph numbers flow) : flowOf graph = flow := by
  rw [flowOf, entered.nodes_eq, entered.edges_eq]

theorem addNode {nodes : List Node} (entered : Entered graph numbers ⟨nodes, []⟩) {node : Node}
    (fresh : node.id ∉ nodes.map (·.id)) :
    Entered (library.addVertex graph node)
      (numbers.insert node.id (library.vertices graph).length) ⟨nodes ++ [node], []⟩ where
  nodes_eq := by rw [library.vertices_addVertex, entered.nodes_eq]
  edges_eq := by rw [library.arcs_addVertex, entered.edges_eq]
  numbered := by
    intro id number
    simp only [getElem?_concat_iff]
    rw [Dict.get?_insert, entered.nodes_eq]
    by_cases new : node.id = id
    · rw [if_pos new, Option.some_inj]
      constructor
      · rintro rfl
        exact ⟨node, .inr ⟨rfl, rfl⟩, new⟩
      · rintro ⟨other, old | ⟨last, -⟩, same⟩
        · rw [new, ← same] at fresh
          exact absurd (List.mem_map_of_mem (List.mem_of_getElem? old)) fresh
        · exact last.symm
    · rw [if_neg new, entered.numbered]
      constructor
      · rintro ⟨other, old, same⟩
        exact ⟨other, .inl old, same⟩
      · rintro ⟨other, old | ⟨-, last⟩, same⟩
        · exact ⟨other, old, same⟩
        · exact absurd (last ▸ same) new
  ends := by
    have free : library.arcs graph = [] := List.map_eq_nil_iff.mp entered.edges_eq
    intro arc member
    rw [library.arcs_addVertex, free] at member
    cases member

theorem addEdge (entered : Entered graph numbers flow) {edge : Edge} {source target : Nat}
    (leaves : numbers.get? edge.source = some source)
    (enters : numbers.get? edge.target = some target) :
    Entered (library.addArc graph (arc source target edge)) numbers
      ⟨flow.nodes, flow.edges ++ [edge]⟩ := by
  have known (direction : Direction) :
      (arc source target edge).ends direction < (library.vertices graph).length := by
    cases direction with
    | outgoing => exact entered.lt_of_number leaves
    | incoming => exact entered.lt_of_number enters
  constructor
  case nodes_eq => rw [library.vertices_addArc graph _ known, entered.nodes_eq]
  case edges_eq =>
    rw [library.arcs_addArc graph _ known, List.map_append, entered.edges_eq]
    rfl
  case numbered => exact entered.numbered
  case ends =>
    intro other member direction
    rw [library.arcs_addArc graph _ known] at member
    rcases List.mem_append.mp member with old | new
    · exact entered.ends other old direction
    · obtain rfl := List.mem_singleton.mp new
      cases direction with
      | outgoing => exact leaves
      | incoming => exact enters

end Entered

section Loops

theorem addNodes_agree {seen : List String} {nodes : List Node}
    (entered : Entered graph numbers ⟨nodes, []⟩)
    (known : ∀ id, id ∈ seen ↔ id ∈ nodes.map (·.id)) (rest : List Node) :
    Agree (fun built _ => Entered built.1 built.2 ⟨nodes ++ rest, []⟩)
      (addNodes graph numbers rest) (Flow.checkNodes seen rest) := by
  -- By induction on the nodes to come. One side looks ids up in the map, the other in a list, so it is
  -- carried along that both hold the ids of the nodes that are in the graph.
  induction rest generalizing graph numbers seen nodes with
  | nil =>
    rw [addNodes, Flow.checkNodes, List.append_nil]
    exact .ok entered
  | cons node rest ih =>
    rw [addNodes, Flow.checkNodes]
    cases Flow.checkKeys reservedNodeKeys node.id node.metadata with
    | error fault => exact .error fault
    | ok =>
      dsimp only [bind, Except.bind]
      have contains_iff : numbers.contains node.id = true ↔ node.id ∈ seen := by
        rw [Dict.contains, Option.isSome_iff_exists, known, ← entered.mem_ids_iff]
      by_cases repeated : node.id ∈ seen
      · rw [if_pos repeated, if_pos (contains_iff.mpr repeated)]
        exact .error _
      · rw [if_neg repeated, if_neg (repeated ∘ contains_iff.mp)]
        have fresh : node.id ∉ nodes.map (·.id) := repeated ∘ (known node.id).mpr
        rw [List.append_cons]
        refine ih (entered.addNode fresh) fun id => ?_
        rw [List.mem_cons, List.map_append, List.mem_append, known, or_comm, List.map_singleton,
          List.mem_singleton]

theorem lookUp_cases (entered : Entered graph numbers flow) (edge : Edge) (direction : Direction) :
    (∃ number, edge.at direction ∈ flow.nodes.map (·.id) ∧
      numbers.get? (edge.at direction) = some number ∧
      lookUp numbers edge direction = .ok number) ∨
    (edge.at direction ∉ flow.nodes.map (·.id) ∧
      lookUp numbers edge direction = .error (.unknownNode edge.id (edge.at direction))) := by
  rw [entered.mem_ids_iff, lookUp]
  cases numbers.get? (edge.at direction) with
  | none => exact .inr ⟨by simp, rfl⟩
  | some number => exact .inl ⟨number, by simp, rfl, rfl⟩

theorem addEdges_agree (entered : Entered graph numbers flow) (seen : List String)
    (rest : List Edge) :
    Agree (fun built _ => Entered built numbers ⟨flow.nodes, flow.edges ++ rest⟩)
      (addEdges graph numbers seen rest)
      (Flow.checkEdges (flow.nodes.map (·.id)) seen rest) := by
  -- The flow grows by the edges that go in, while the nodes and the map stay as they are.
  induction rest generalizing graph seen flow with
  | nil =>
    rw [addEdges, Flow.checkEdges, List.append_nil]
    exact .ok entered
  | cons edge rest ih =>
    rw [addEdges, Flow.checkEdges]
    cases Flow.checkKeys reservedEdgeKeys edge.id edge.metadata with
    | error fault => exact .error fault
    | ok =>
      dsimp only [bind, Except.bind]
      by_cases repeated : edge.id ∈ seen
      · rw [if_pos repeated, if_pos repeated]
        exact .error _
      rw [if_neg repeated, if_neg repeated]
      rcases lookUp_cases entered edge .outgoing with
        ⟨source, known, leaves, found⟩ | ⟨unknown, failed⟩
      swap
      · rw [failed, if_pos (show edge.source ∉ _ from unknown)]
        exact .error _
      rw [found, if_neg (not_not_intro (show edge.source ∈ _ from known))]
      rcases lookUp_cases entered edge .incoming with
        ⟨target, known, enters, found⟩ | ⟨unknown, failed⟩
      swap
      · dsimp only
        rw [failed, if_pos (show edge.target ∉ _ from unknown)]
        exact .error _
      dsimp only
      rw [found, if_neg (not_not_intro (show edge.target ∈ _ from known)), List.append_cons]
      exact ih (entered.addEdge leaves enters) (edge.id :: seen)

end Loops

namespace Entered

theorem ends_iff (entered : Entered graph numbers flow) {number : Nat} {node : Node}
    (here : flow.nodes[number]? = some node) {arc : Arc Edge} (member : arc ∈ library.arcs graph)
    (direction : Direction) : arc.ends direction = number ↔ arc.weight.at direction = node.id := by
  have found := entered.ends arc member direction
  -- The map leads from the id at the end of the edge to the number at the end of its arc.
  constructor
  · rintro rfl
    obtain ⟨other, there, same⟩ := (entered.numbered _ _).mp found
    rw [here, Option.some_inj] at there
    rw [there, same]
  · intro same
    rw [same, entered.number_of here, Option.some_inj] at found
    exact found.symm

theorem filter_arcs (entered : Entered graph numbers flow) {number : Nat} {node : Node}
    (here : flow.nodes[number]? = some node) (direction : Direction) :
    ((library.arcs graph).filter fun arc => arc.ends direction = number).map (·.weight) =
      flow.edges.filter fun edge => edge.at direction = node.id := by
  rw [← entered.edges_eq, List.filter_map]
  refine congrArg _ (List.filter_congr fun arc member => ?_)
  exact decide_eq_decide.mpr (entered.ends_iff here member direction)

theorem edgesAt_eq (entered : Entered graph numbers flow) {number : Nat} {node : Node}
    (here : flow.nodes[number]? = some node) (direction : Direction) :
    edgesAt graph direction number =
      (flow.edges.filter fun edge => edge.at direction = node.id).reverse := by
  have bound := entered.lt_of_number (entered.number_of here)
  calc edgesAt graph direction number
      = ((Arc.newest direction (library.arcs graph) number).map Prod.fst).map (·.weight) := by
        rw [edgesAt, library.arcsAt_eq graph direction number bound, List.map_map]
        rfl
    _ = (flow.edges.filter fun edge => edge.at direction = node.id).reverse := by
        rw [Arc.map_newest, List.map_reverse, entered.filter_arcs here]

theorem numbersOf_eq (entered : Entered graph numbers flow) :
    numbersOf graph = flow.nodes.zipIdx.map Prod.snd := by
  rw [numbersOf, entered.nodes_eq, List.zipIdx_map_snd, List.range_eq_range']

theorem checkLeaving_eq (entered : Entered graph numbers flow) {number : Nat} {node : Node}
    (here : flow.nodes[number]? = some node) :
    checkLeaving graph number = flow.checkLeaving node := by
  rw [checkLeaving, entered.nodes_eq, here, Flow.checkLeaving]
  dsimp only
  rw [entered.edgesAt_eq here]
  rfl

theorem checks_eq (entered : Entered graph numbers flow) :
    (numbersOf graph).forM (checkLeaving graph) = flow.nodes.forM flow.checkLeaving := by
  have pairs := Success.forM_pairs (f := flow.checkLeaving) (g := checkLeaving graph)
    fun pair (member : pair ∈ flow.nodes.zipIdx) =>
      (entered.checkLeaving_eq (List.mem_zipIdx_iff_getElem?.mp member)).symm
  rw [entered.numbersOf_eq, ← pairs, List.zipIdx_map_fst]

end Entered

section Entry

/-- The nodes that no edge enters, with their numbers. -/
def numberedEntries (flow : Flow) : List (Node × Nat) :=
  flow.nodes.zipIdx.filter fun pair => flow.edges.all (·.target ≠ pair.1.id)

theorem here_of_entry {pair : Node × Nat} (member : pair ∈ numberedEntries flow) :
    flow.nodes[pair.2]? = some pair.1 :=
  List.mem_zipIdx_iff_getElem?.mp (List.mem_filter.mp member).1

theorem entries_eq (flow : Flow) : flow.entries = (numberedEntries flow).map Prod.fst := by
  rw [Flow.entries, numberedEntries]
  conv_lhs => rw [← List.zipIdx_map_fst 0 flow.nodes, List.filter_map]
  rfl

theorem roots_eq (entered : Entered graph numbers flow) :
    roots graph = (numberedEntries flow).map Prod.snd := by
  rw [roots, entered.numbersOf_eq, List.filter_map, numberedEntries]
  refine congrArg _ (List.filter_congr fun pair member => ?_)
  have here := List.mem_zipIdx_iff_getElem?.mp member
  rw [Function.comp, entered.edgesAt_eq here, List.isEmpty_reverse, Bool.eq_iff_iff,
    List.isEmpty_iff, List.filter_eq_nil_iff, List.all_eq_true]
  refine forall₂_congr fun edge _ => ?_
  rw [decide_eq_true_iff, decide_eq_true_iff]
  rfl

theorem findEntry_agree (entered : Entered graph numbers flow) :
    Agree (fun number node => flow.nodes[number]? = some node) (findEntry graph) flow.entry := by
  have here (pair : Node × Nat) (member : pair ∈ numberedEntries flow) := here_of_entry member
  rw [findEntry, roots_eq entered, entered.nodes_eq, Flow.entry, entries_eq]
  generalize numberedEntries flow = pairs at here
  have ids : (pairs.map Prod.snd).filterMap (fun number => flow.nodes[number]?.map (·.id)) =
      (pairs.map Prod.fst).map (·.id) := by
    rw [List.filterMap_map, List.map_map, ← List.filterMap_eq_map]
    refine List.filterMap_congr fun pair member => ?_
    rw [Function.comp, here pair member]
    rfl
  rcases pairs with _ | ⟨pair, _ | ⟨second, more⟩⟩
  · exact .error _
  · exact .ok (here pair List.mem_cons_self)
  · change Agree _
      (.error (GraphFault.severalEntries
        (((pair :: second :: more).map Prod.snd).filterMap _)))
      (.error (GraphFault.severalEntries (((pair :: second :: more).map Prod.fst).map _)))
    rw [ids]
    exact .error _

end Entry

/-- A graph with numbers shows what another graph shows. -/
structure Shows (indexed : Indexed library) (graph : Graph) : Prop where
  flow_eq : indexed.flow = graph.flow
  entryNode?_eq : indexed.entryNode? = some graph.entry
  node?_eq : ∀ id, indexed.node? id = graph.node? id
  edgesFrom_eq : ∀ id, indexed.edgesFrom id = graph.edgesFrom id

namespace Entered

theorem node?_eq (entered : Entered graph numbers flow) (entry : Nat) (id : String) :
    node? ⟨graph, numbers, entry⟩ id = flow.node? id := by
  ext node
  rw [Flow.node?_eq_some_iff entered.nodup_ids, node?, entered.nodes_eq, List.mem_iff_getElem?]
  dsimp only
  rw [Option.bind_eq_bind, Option.bind_eq_some_iff]
  constructor
  · rintro ⟨number, found, here⟩
    obtain ⟨other, there, same⟩ := (entered.numbered id number).mp found
    rw [here, Option.some_inj] at there
    exact ⟨⟨number, here⟩, there ▸ same⟩
  · rintro ⟨⟨number, here⟩, rfl⟩
    exact ⟨number, entered.number_of here, here⟩

theorem edgesFrom_eq (entered : Entered graph numbers flow) (entry : Nat) (id : String) :
    edgesFrom ⟨graph, numbers, entry⟩ id = flow.edgesFrom id := by
  rw [edgesFrom, Flow.edgesFrom]
  dsimp only
  cases found : numbers.get? id with
  | none =>
    -- Every edge in the graph leaves a node that has a number.
    dsimp only
    rw [← entered.edges_eq, eq_comm, List.filter_eq_nil_iff]
    rintro _ member same
    obtain ⟨arc, old, rfl⟩ := List.mem_map.mp member
    have leaves := entered.ends arc old .outgoing
    rw [Edge.at, of_decide_eq_true same, found] at leaves
    cases leaves
  | some number =>
    dsimp only
    obtain ⟨node, here, rfl⟩ := (entered.numbered id number).mp found
    rw [library.arcsAt_eq graph .outgoing number (entered.lt_of_number found), Arc.sort_newest]
    calc (Arc.newest .outgoing (library.arcs graph) number).reverse.map (·.1.weight)
        = ((Arc.newest .outgoing (library.arcs graph) number).map Prod.fst).reverse.map
            (·.weight) := by
          rw [← List.map_reverse, List.map_map]
          rfl
      _ = flow.edges.filter fun edge => edge.source = node.id := by
          rw [Arc.map_newest, List.reverse_reverse, entered.filter_arcs here]
          rfl

theorem shows_of_entry (entered : Entered graph numbers flow) {entry : Nat} {node : Node}
    (here : flow.nodes[entry]? = some node) : Shows ⟨graph, numbers, entry⟩ ⟨flow, node⟩ where
  flow_eq := entered.flowOf_eq
  entryNode?_eq := by rw [entryNode?, entered.nodes_eq, here]
  node?_eq := entered.node?_eq entry
  edgesFrom_eq := entered.edgesFrom_eq entry

end Entered

theorem build_agree (library : Adjacency Node Edge) (flow : Flow) :
    Agree Shows (build library flow) (Graph.build flow) := by
  rw [build, Graph.build]
  by_cases none : flow.nodes.isEmpty
  · rw [if_pos none, if_pos none]
    exact .error _
  rw [if_neg none, if_neg none]
  refine (addNodes_agree .empty (by simp) flow.nodes).bind fun (_, _) _ entered => ?_
  refine (addEdges_agree entered [] flow.edges).bind fun graph _ entered => ?_
  -- All nodes and edges are in now, so the checks that follow are those of the whole flow.
  replace entered : Entered graph _ flow := entered
  rw [entered.checks_eq]
  cases flow.nodes.forM flow.checkLeaving with
  | error fault => exact .error fault
  | ok =>
    refine (findEntry_agree entered).bind fun number node here => ?_
    rw [entered.flowOf_eq]
    cases flow.hasPlainCycle with
    | true => exact .error _
    | false => exact .ok (entered.shows_of_entry here)

end Indexed

/-- What is shown of a flow is the flow: its nodes and edges in order, the node with each id, and the
edges that leave each node in order. -/
structure Flow.Shown (flow : Flow) (nodes : List Node) (edges : List Edge)
    (node? : String → Option Node) (edgesFrom : String → List Edge) : Prop where
  nodes_eq : nodes = flow.nodes
  edges_eq : edges = flow.edges
  node?_eq_some_iff : ∀ id node, node? id = some node ↔ node ∈ flow.nodes ∧ node.id = id
  node?_eq_none_iff : ∀ id, node? id = none ↔ ∀ node ∈ flow.nodes, node.id ≠ id
  edgesFrom_eq : ∀ id, edgesFrom id = flow.edges.filter (·.source = id)
  targets : ∀ edge ∈ flow.edges, ∃ node, node? edge.target = some node

namespace Graph

theorem shown_of_build {flow : Flow} {graph : Graph} (built : build flow = .ok graph) :
    flow.Shown graph.nodes graph.edges graph.node? graph.edgesFrom := by
  obtain ⟨runnable, rfl, -⟩ := (build_eq_ok_iff flow graph).mp built
  have node?_eq_some_iff := Flow.node?_eq_some_iff runnable.nodeIds
  exact {
    nodes_eq := rfl
    edges_eq := rfl
    node?_eq_some_iff
    node?_eq_none_iff := by
      intro id
      rw [Option.eq_none_iff_forall_ne_some]
      constructor
      · intro none node member same
        exact none node ((node?_eq_some_iff id node).mpr ⟨member, same⟩)
      · intro none node found
        obtain ⟨member, same⟩ := (node?_eq_some_iff id node).mp found
        exact none node member same
    edgesFrom_eq := fun _ => rfl
    targets := by
      intro edge member
      obtain ⟨node, known, same⟩ := runnable.targets edge member
      exact ⟨node, (node?_eq_some_iff edge.target node).mpr ⟨known, same⟩⟩ }

/-- A graph that was built is a view of its flow, and so is the graph with numbers that is built of
the same flow with any library. -/
theorem build_faithful {flow : Flow} {graph : Graph} (built : build flow = .ok graph) :
    graph.flow = flow ∧ (flow.nodes.map (·.id)).Nodup ∧
      flow.Shown graph.nodes graph.edges graph.node? graph.edgesFrom ∧
      ∀ library : Adjacency Node Edge, ∃ indexed, Indexed.build library flow = .ok indexed ∧
        indexed.flow = flow ∧ indexed.entryNode? = some graph.entry ∧
        flow.Shown indexed.nodes indexed.edges indexed.node? indexed.edgesFrom := by
  obtain ⟨runnable, same, -⟩ := (build_eq_ok_iff flow graph).mp built
  have shown := shown_of_build built
  refine ⟨same, runnable.nodeIds, shown, fun library => ?_⟩
  obtain ⟨indexed, numbered, view⟩ := (built ▸ Indexed.build_agree library flow).of_ok
  have flow_eq : indexed.flow = flow := view.flow_eq.trans same
  refine ⟨indexed, numbered, flow_eq, view.entryNode?_eq, ?_⟩
  rw [← funext view.node?_eq, ← funext view.edgesFrom_eq] at shown
  exact { shown with
    nodes_eq := congrArg Flow.nodes flow_eq
    edges_eq := congrArg Flow.edges flow_eq }

theorem polling_faithful :
    build .polling = .ok .polling ∧
      polling.node? "check" = some ⟨"check", .assertion ⟨"${state}", .equals, "ready"⟩, {}⟩ ∧
      ∃ indexed, Indexed.build (Digraph.adjacency Node Edge) .polling = .ok indexed ∧
        indexed.edgesFrom "check" =
          [⟨"e2", "check", "wait", some false, {}⟩, ⟨"e3", "check", "done", some true, {}⟩] := by
  obtain ⟨-, -, shown, all⟩ := build_faithful build_polling
  obtain ⟨indexed, built, -, -, numbered⟩ := all (Digraph.adjacency Node Edge)
  refine ⟨build_polling, (shown.node?_eq_some_iff _ _).mpr ?_, indexed, built, ?_⟩
  · decide
  · rw [numbered.edgesFrom_eq]
    rfl

end Graph

end Scenario
