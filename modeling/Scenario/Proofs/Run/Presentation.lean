import Scenario.Proofs.Run.Twins
/-!
What the order and the presentation of a flow are worth.

The nodes and edges of a flow may be listed in another order, their metadata may be replaced, and
the edges may get other ids. None of this is seen in a run: the checks of a flow and the search for
the next node follow the lists, but wherever order could matter there is only one candidate.
-/
namespace Scenario

open Relation (TransGen)

/-- What a run knows of a node. -/
def Node.bare (node : Node) : String × Step := (node.id, node.step)

/-- What a run knows of an edge. -/
def Edge.bare (edge : Edge) : String × String × Option Bool :=
  (edge.source, edge.target, edge.label)

theorem Node.alike_of_bare {hidden : Prop} {node twin : Node} (same : twin.bare = node.bare) :
    node.Alike hidden twin := by
  obtain ⟨id, step⟩ := Prod.mk.inj same
  exact ⟨id, step ▸ .same twin.step⟩

theorem Edge.alike_of_bare {edge twin : Edge} (same : twin.bare = edge.bare) :
    edge.Alike twin := by
  obtain ⟨source, rest⟩ := Prod.mk.inj same
  obtain ⟨target, label⟩ := Prod.mk.inj rest
  exact ⟨source, target, label⟩

namespace Flow

/-- The other flow differs in order, in metadata and in the ids of edges, at most. -/
structure Rearranges (flow other : Flow) : Prop where
  nodes : (other.nodes.map (·.bare)).Perm (flow.nodes.map (·.bare))
  edges : (other.edges.map (·.bare)).Perm (flow.edges.map (·.bare))
  nodeKeys : ∀ node ∈ other.nodes, Free reservedNodeKeys node.metadata
  edgeKeys : ∀ edge ∈ other.edges, Free reservedEdgeKeys edge.metadata
  edgeIds : (other.edges.map (·.id)).Nodup

theorem exists_of_perm_map {α β : Type} {f : α → β} {items others : List α}
    (perm : (others.map f).Perm (items.map f)) {item : α} (member : item ∈ items) :
    ∃ other ∈ others, f other = f item :=
  List.mem_map.mp (perm.mem_iff.mpr (List.mem_map_of_mem member))

variable {flow other : Flow}

theorem Rearranges.alike (rearranges : flow.Rearranges other) (hidden : Prop) :
    flow.Alike hidden other where
  nodes := by
    intro node member
    obtain ⟨twin, present, same⟩ := exists_of_perm_map rearranges.nodes member
    exact ⟨twin, present, Node.alike_of_bare same⟩
  edges := by
    intro edge member
    obtain ⟨twin, present, same⟩ := exists_of_perm_map rearranges.edges member
    exact ⟨twin, present, Edge.alike_of_bare same⟩
  edgesBack := by
    intro twin member
    obtain ⟨edge, present, same⟩ := exists_of_perm_map rearranges.edges.symm member
    exact ⟨edge, present, Edge.alike_of_bare same.symm⟩

theorem Rearranges.node_back (rearranges : flow.Rearranges other) {twin : Node}
    (member : twin ∈ other.nodes) :
    ∃ node ∈ flow.nodes, node.id = twin.id ∧ node.kind = twin.kind := by
  obtain ⟨node, present, same⟩ := exists_of_perm_map rearranges.nodes.symm member
  obtain ⟨id, step⟩ := Prod.mk.inj same
  exact ⟨node, present, id, congrArg Step.kind step⟩

theorem Rearranges.edge_back (rearranges : flow.Rearranges other) {twin : Edge}
    (member : twin ∈ other.edges) : ∃ edge ∈ flow.edges, edge.Alike twin :=
  (rearranges.alike False).edgesBack twin member

theorem Rearranges.exists_id (rearranges : flow.Rearranges other) {id : String}
    (known : ∃ node ∈ flow.nodes, node.id = id) : ∃ node ∈ other.nodes, node.id = id := by
  obtain ⟨node, member, rfl⟩ := known
  obtain ⟨twin, present, likes⟩ := (rearranges.alike False).nodes node member
  exact ⟨twin, present, likes.id⟩

theorem map_label_edgesFrom (flow : Flow) (id : String) :
    (flow.edgesFrom id).map (·.label) =
      ((flow.edges.map (·.bare)).filter (·.1 = id)).map (·.2.2) := by
  rw [edgesFrom, List.filter_map, List.map_map]
  rfl

theorem Rearranges.labels (rearranges : flow.Rearranges other) (id : String) :
    ((other.edgesFrom id).map (·.label)).Perm ((flow.edgesFrom id).map (·.label)) := by
  rw [map_label_edgesFrom, map_label_edgesFrom]
  exact (rearranges.edges.filter _).map _

theorem Rearranges.nodeIds (rearranges : flow.Rearranges other)
    (distinct : (flow.nodes.map (·.id)).Nodup) : (other.nodes.map (·.id)).Nodup := by
  have ids := rearranges.nodes.map Prod.fst
  rw [List.map_map, List.map_map] at ids
  exact ids.nodup_iff.mpr distinct

/-- No cycle comes into being. -/
theorem Rearranges.plainLeads (rearranges : flow.Rearranges other) {source target : String}
    (leads : other.PlainLeads source target) : flow.PlainLeads source target := by
  obtain ⟨⟨twin, member, same, plain⟩, twinEdge, inside, leaves, enters⟩ := leads
  obtain ⟨node, present, id, kind⟩ := rearranges.node_back member
  obtain ⟨edge, among, likes⟩ := rearranges.edge_back inside
  refine ⟨⟨node, present, id.trans same, kind ▸ plain⟩, edge, among, ?_, ?_⟩
  · rw [← likes.source, leaves]
  · rw [← likes.target, enters]

theorem Rearranges.unentered_back (rearranges : flow.Rearranges other) {node twin : Node}
    (same : node.id = twin.id) (unentered : other.Unentered twin) : flow.Unentered node := by
  intro edge member
  obtain ⟨twinEdge, present, likes⟩ := (rearranges.alike False).edges edge member
  rw [← likes.target, same]
  exact unentered twinEdge present

theorem Rearranges.entry (rearranges : flow.Rearranges other) (runnable : flow.Runnable) :
    ∃! node, node ∈ other.nodes ∧ other.Unentered node := by
  have alike := rearranges.alike False
  obtain ⟨entry, ⟨member, unentered⟩, unique⟩ := runnable.entry
  obtain ⟨twin, present, likes⟩ := alike.nodes entry member
  refine ⟨twin, ⟨present, alike.unentered likes unentered⟩, ?_⟩
  rintro rival ⟨inside, alsoUnentered⟩
  obtain ⟨node, among, id, -⟩ := rearranges.node_back inside
  have isEntry : node = entry :=
    unique node ⟨among, rearranges.unentered_back id alsoUnentered⟩
  refine List.inj_on_of_nodup_map (rearranges.nodeIds runnable.nodeIds) inside present ?_
  rw [← id, isEntry, likes.id]

theorem Rearranges.runnable (rearranges : flow.Rearranges other) (runnable : flow.Runnable) :
    other.Runnable where
  nonempty := by
    intro empty
    obtain ⟨node, ⟨member, -⟩, -⟩ := rearranges.entry runnable
    simp [empty] at member
  nodeIds := rearranges.nodeIds runnable.nodeIds
  edgeIds := rearranges.edgeIds
  sources := by
    intro twin member
    obtain ⟨edge, present, likes⟩ := rearranges.edge_back member
    rw [likes.source]
    exact rearranges.exists_id (runnable.sources edge present)
  targets := by
    intro twin member
    obtain ⟨edge, present, likes⟩ := rearranges.edge_back member
    rw [likes.target]
    exact rearranges.exists_id (runnable.targets edge present)
  nodeKeys := rearranges.nodeKeys
  edgeKeys := rearranges.edgeKeys
  branches := by
    intro twin member asserts
    obtain ⟨node, present, id, kind⟩ := rearranges.node_back member
    obtain ⟨labelled, distinct⟩ := runnable.branches node present (kind.trans asserts)
    constructor
    · intro twinEdge inside leaves
      obtain ⟨edge, among, likes⟩ := rearranges.edge_back inside
      rw [likes.label]
      exact labelled edge among (by rw [← likes.source, leaves, id])
    · rw [← id]
      exact (rearranges.labels node.id).nodup_iff.mpr distinct
  plain := by
    intro twin member plain
    obtain ⟨node, present, id, kind⟩ := rearranges.node_back member
    obtain ⟨unlabelled, few⟩ := runnable.plain node present (kind ▸ plain)
    constructor
    · intro twinEdge inside leaves
      obtain ⟨edge, among, likes⟩ := rearranges.edge_back inside
      rw [likes.label]
      exact unlabelled edge among (by rw [← likes.source, leaves, id])
    · have size := (rearranges.labels node.id).length_eq
      rw [List.length_map, List.length_map] at size
      rw [← id, size]
      exact few
  entry := rearranges.entry runnable
  acyclic := by
    rintro ⟨id, cycle⟩
    exact runnable.acyclic ⟨id, TransGen.mono (fun _ _ => rearranges.plainLeads) _ _ cycle⟩

end Flow

theorem Transport.Alike.eq {transport twin : Transport} (alike : transport.Alike False twin) :
    twin = transport := by
  cases alike with
  | offline => rfl
  | scripted replies sents =>
    have same : ∀ {sent other : Sent}, sent.Alike False other → sent = other := by
      rintro ⟨request, timeout⟩ ⟨otherRequest, otherTimeout⟩ likes
      have requests : otherRequest = request := likes.request.shown not_false
      have timeouts : otherTimeout = timeout := likes.timeout
      rw [requests, timeouts]
    have lists := sents.imp fun _ _ => same
    rw [List.forall₂_eq_eq_eq] at lists
    rw [lists]

namespace Journey

/-- However a flow that makes a graph is arranged and presented, it makes a graph, and whatever
happens to the two runs they send the same requests and are twins. -/
theorem build_presents {flow other : Flow} {graph : Graph} (built : Graph.build flow = .ok graph)
    (rearranges : flow.Rearranges other) :
    ∃ twin, Graph.build other = .ok twin ∧
      ∀ (tolerance : UInt32) (epoch : Nat) (vars : Variables) (timeout : UInt64) (now : Nat)
        (transport : Transport) (moves : List Move),
        let journey := (start graph tolerance epoch vars timeout now transport).afterAll moves
        let second := (start twin tolerance epoch vars timeout now transport).afterAll moves
        journey.Twins second ∧ second.transport = journey.transport := by
  obtain ⟨runnable, -⟩ := (Graph.build_eq_ok_iff flow graph).mp built
  obtain ⟨twin, otherBuilt⟩ := Graph.build_of_runnable (rearranges.runnable runnable)
  refine ⟨twin, otherBuilt, fun tolerance epoch vars timeout now transport moves => ?_⟩
  have alike := (alike_start built otherBuilt (rearranges.alike False) tolerance epoch vars timeout
    now transport).afterAll moves False.elim
  exact ⟨alike.twins, alike.transport.eq⟩

end Journey

/-- The polling flow in reverse, placed on a canvas and with edges of other names. -/
def Flow.pollingReversed : Flow where
  nodes :=
    [⟨"done", .output (.string "over"), Dict.empty.insert "x" .null⟩,
      ⟨"check", .assertion ⟨"${state}", .equals, "ready"⟩, {}⟩, ⟨"wait", .delay 5, {}⟩,
      ⟨"begin", .assignment ⟨"state", .string "idle"⟩, {}⟩]
  edges :=
    [⟨"over", "check", "done", some true, {}⟩, ⟨"again", "check", "wait", some false, {}⟩,
      ⟨"then", "wait", "check", none, {}⟩, ⟨"first", "begin", "wait", none, {}⟩]

theorem Flow.rearranges_reversed : Flow.polling.Rearranges .pollingReversed where
  nodes := List.reverse_perm (Flow.polling.nodes.map Node.bare)
  edges := List.reverse_perm (Flow.polling.edges.map Edge.bare)
  nodeKeys := by
    unfold Free
    decide
  edgeKeys := by
    unfold Free
    decide
  edgeIds := by decide

namespace Journey

theorem polling_presents :
    Graph.build .polling = .ok .polling ∧ Flow.polling.Rearranges .pollingReversed ∧
      ∃ twin, Graph.build .pollingReversed = .ok twin ∧
        (pollingStart.afterAll pollingMoves).Twins
          ((start twin 0 0 {} 7 0 .offline).afterAll pollingMoves) ∧
        (pollingStart.afterAll pollingMoves).run.log.length = 3 := by
  obtain ⟨twin, built, same⟩ := build_presents Graph.build_polling Flow.rearranges_reversed
  refine ⟨Graph.build_polling, Flow.rearranges_reversed, twin, built, ?_, ?_⟩
  · exact (same 0 0 {} 7 0 .offline pollingMoves).1
  · decide

end Journey

end Scenario
