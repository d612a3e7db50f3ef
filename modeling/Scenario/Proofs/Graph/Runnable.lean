import Mathlib.Data.List.Nodup
import Scenario.Proofs.Graph.Cycle
import Scenario.Proofs.Success
/-!
Which flows make a graph.

`Flow.Runnable` lists the rules for a flow without saying how they are checked. `Graph.build`
accepts the runnable flows and no others, and the node at which a run of the graph starts is the
one that no edge enters.
-/
namespace Scenario

open Relation (TransGen)

namespace Flow

def Unentered (flow : Flow) (node : Node) : Prop := ∀ edge ∈ flow.edges, edge.target ≠ node.id

def Free (reserved : List String) (metadata : Metadata) : Prop :=
  ∀ key ∈ reserved, metadata.get? key = none

structure Runnable (flow : Flow) : Prop where
  nonempty : flow.nodes ≠ []
  nodeIds : (flow.nodes.map (·.id)).Nodup
  edgeIds : (flow.edges.map (·.id)).Nodup
  sources : ∀ edge ∈ flow.edges, ∃ node ∈ flow.nodes, node.id = edge.source
  targets : ∀ edge ∈ flow.edges, ∃ node ∈ flow.nodes, node.id = edge.target
  nodeKeys : ∀ node ∈ flow.nodes, Free ["id", "type", "data"] node.metadata
  edgeKeys : ∀ edge ∈ flow.edges, Free ["id", "source", "target", "label"] edge.metadata
  /-- The edges that leave an assertion have labels, and each label stands once. -/
  branches : ∀ node ∈ flow.nodes, node.kind = .assertion →
    (∀ edge ∈ flow.edges, edge.source = node.id → edge.label ≠ none) ∧
    ((flow.edgesFrom node.id).map (·.label)).Nodup
  /-- Any other node is left by one edge at most, which has no label. -/
  plain : ∀ node ∈ flow.nodes, node.kind ≠ .assertion →
    (∀ edge ∈ flow.edges, edge.source = node.id → edge.label = none) ∧
    (flow.edgesFrom node.id).length ≤ 1
  entry : ∃! node, node ∈ flow.nodes ∧ flow.Unentered node
  acyclic : ¬ ∃ id, TransGen flow.PlainLeads id id

section Checks

theorem checkKeys_iff (reserved : List String) (owner : String) (metadata : Metadata) :
    checkKeys reserved owner metadata = .ok () ↔ Free reserved metadata := by
  unfold checkKeys
  cases found : reserved.find? metadata.contains with
  | none =>
    rw [List.find?_eq_none] at found
    simpa [Free, Dict.contains] using found
  | some key =>
    have bound : metadata.contains key = true := List.find?_some found
    have member : key ∈ reserved := List.mem_of_find?_eq_some found
    simp only [reduceCtorEq, false_iff]
    intro free
    simp [Dict.contains, free key member] at bound

theorem forall_notMem_cons_iff {α : Type} (key : α → String) (id : String) (seen : List String)
    (items : List α) :
    (∀ item ∈ items, key item ∉ id :: seen) ↔
      id ∉ items.map key ∧ ∀ item ∈ items, key item ∉ seen := by
  simp only [List.mem_cons, not_or, List.mem_map, not_exists, not_and]
  exact forall₂_and

theorem checkNodes_iff (seen : List String) (nodes : List Node) :
    checkNodes seen nodes = .ok () ↔
      (∀ node ∈ nodes, Free reservedNodeKeys node.metadata) ∧ (nodes.map (·.id)).Nodup ∧
        ∀ node ∈ nodes, node.id ∉ seen := by
  -- The ids seen so far grow, so the claim is about all of them at once.
  induction nodes generalizing seen with
  | nil => simp [checkNodes]
  | cons node rest ih =>
    rw [checkNodes, Success.unit_bind_iff, checkKeys_iff, List.map_cons, List.nodup_cons,
      List.forall_mem_cons, List.forall_mem_cons]
    by_cases repeated : node.id ∈ seen
    · simp [repeated]
    · rw [if_neg repeated, ih, forall_notMem_cons_iff]
      constructor
      · rintro ⟨head, tail, distinct, apart, fresh⟩
        exact ⟨⟨head, tail⟩, ⟨apart, distinct⟩, repeated, fresh⟩
      · rintro ⟨⟨head, tail⟩, ⟨apart, distinct⟩, -, fresh⟩
        exact ⟨head, tail, distinct, apart, fresh⟩

theorem checkEdges_iff (nodes seen : List String) (edges : List Edge) :
    checkEdges nodes seen edges = .ok () ↔
      (∀ edge ∈ edges, Free reservedEdgeKeys edge.metadata) ∧ (edges.map (·.id)).Nodup ∧
        (∀ edge ∈ edges, edge.id ∉ seen) ∧
        ∀ edge ∈ edges, edge.source ∈ nodes ∧ edge.target ∈ nodes := by
  induction edges generalizing seen with
  | nil => simp [checkEdges]
  | cons edge rest ih =>
    rw [checkEdges, Success.unit_bind_iff, checkKeys_iff, List.map_cons, List.nodup_cons,
      List.forall_mem_cons, List.forall_mem_cons, List.forall_mem_cons]
    by_cases repeated : edge.id ∈ seen
    · simp [repeated]
    by_cases leaves : edge.source ∈ nodes
    swap
    · simp [repeated, leaves]
    by_cases enters : edge.target ∈ nodes
    swap
    · simp [repeated, leaves, enters]
    rw [if_neg repeated, if_neg (not_not_intro leaves), if_neg (not_not_intro enters), ih,
      forall_notMem_cons_iff]
    constructor
    · rintro ⟨head, tail, distinct, ⟨apart, fresh⟩, known⟩
      exact ⟨⟨head, tail⟩, ⟨apart, distinct⟩, ⟨repeated, fresh⟩, ⟨leaves, enters⟩, known⟩
    · rintro ⟨⟨head, tail⟩, ⟨apart, distinct⟩, ⟨-, fresh⟩, -, known⟩
      exact ⟨head, tail, distinct, ⟨apart, fresh⟩, known⟩

theorem checkLabels_iff (node : String) (seen : List Bool) (edges : List Edge) :
    checkLabels node seen edges = .ok () ↔
      (∀ edge ∈ edges, edge.label ≠ none) ∧ (edges.map (·.label)).Nodup ∧
        ∀ edge ∈ edges, ∀ label ∈ seen, edge.label ≠ some label := by
  induction edges generalizing seen with
  | nil => simp [checkLabels]
  | cons edge rest ih =>
    rw [checkLabels, List.map_cons, List.nodup_cons, List.forall_mem_cons, List.forall_mem_cons]
    cases found : edge.label with
    | none => simp
    | some label =>
      by_cases repeated : label ∈ seen
      · simp only [repeated, if_true, reduceCtorEq, false_iff]
        rintro ⟨-, -, fresh, -⟩
        exact fresh label repeated rfl
      · simp only [repeated, if_false, ih]
        constructor
        · rintro ⟨labelled, distinct, fresh⟩
          refine ⟨⟨by simp, labelled⟩, ⟨?_, distinct⟩, ?_, ?_⟩
          · rw [List.mem_map]
            rintro ⟨other, member, same⟩
            exact fresh other member label List.mem_cons_self same
          · rintro other member ⟨⟩
            exact repeated member
          · exact fun other member later inside =>
              fresh other member later (List.mem_cons_of_mem label inside)
        · rintro ⟨⟨-, labelled⟩, ⟨apart, distinct⟩, -, fresh⟩
          refine ⟨labelled, distinct, fun other member later inside same => ?_⟩
          rcases List.mem_cons.mp inside with rfl | before
          · exact apart (List.mem_map.mpr ⟨other, member, same⟩)
          · exact fresh other member later before same

theorem mem_edgesFrom_iff (flow : Flow) (id : String) (edge : Edge) :
    edge ∈ flow.edgesFrom id ↔ edge ∈ flow.edges ∧ edge.source = id := by
  simp [edgesFrom]

/-- What is asked of the edges that leave one node. -/
def LeavesWell (flow : Flow) (node : Node) : Prop :=
  (node.kind = .assertion → (∀ edge ∈ flow.edges, edge.source = node.id → edge.label ≠ none) ∧
    ((flow.edgesFrom node.id).map (·.label)).Nodup) ∧
  (node.kind ≠ .assertion → (∀ edge ∈ flow.edges, edge.source = node.id → edge.label = none) ∧
    (flow.edgesFrom node.id).length ≤ 1)

theorem checkLeaving_iff (flow : Flow) (node : Node) :
    flow.checkLeaving node = .ok () ↔ flow.LeavesWell node := by
  unfold checkLeaving LeavesWell
  by_cases branching : node.kind = .assertion
  · simp [branching, checkLabels_iff, mem_edgesFrom_iff, List.nodup_reverse]
  by_cases several : 1 < (flow.edgesFrom node.id).length
  · have notOne : ¬ (flow.edgesFrom node.id).length ≤ 1 := by omega
    simp [branching, several, notOne]
  have atMostOne : (flow.edgesFrom node.id).length ≤ 1 := by omega
  simp only [branching, if_false, List.length_reverse, several, false_implies, true_and,
    not_false_eq_true, forall_true_left, atMostOne, and_true, ne_eq]
  cases found : (flow.edgesFrom node.id).reverse.find? (fun edge => edge.label.isSome) with
  | none =>
    rw [List.find?_eq_none] at found
    simpa [mem_edgesFrom_iff] using found
  | some edge =>
    have labelled := List.find?_some found
    have member := List.mem_of_find?_eq_some found
    rw [List.mem_reverse, mem_edgesFrom_iff] at member
    simp only [reduceCtorEq, false_iff]
    intro unlabelled
    simp [unlabelled edge member.1 member.2] at labelled

theorem mem_entries_iff (flow : Flow) (node : Node) :
    node ∈ flow.entries ↔ node ∈ flow.nodes ∧ flow.Unentered node := by
  simp [entries, Unentered]

theorem entry_eq_ok_iff (flow : Flow) (node : Node) :
    flow.entry = .ok node ↔ flow.entries = [node] := by
  unfold entry
  rcases flow.entries with _ | ⟨first, _ | ⟨second, rest⟩⟩ <;> simp

end Checks

theorem entries_eq_singleton_iff (flow : Flow) (nodeIds : (flow.nodes.map (·.id)).Nodup)
    (node : Node) :
    flow.entries = [node] ↔ (node ∈ flow.nodes ∧ flow.Unentered node) ∧
      ∀ other, other ∈ flow.nodes ∧ flow.Unentered other → other = node := by
  constructor
  · intro only
    simp only [← mem_entries_iff, only, List.mem_singleton, imp_self, implies_true, and_self]
  · rintro ⟨member, unique⟩
    have distinct : flow.entries.Nodup := (List.Nodup.of_map (·.id) nodeIds).filter _
    have present : node ∈ flow.entries := (mem_entries_iff flow node).mpr member
    refine List.perm_singleton.mp ((List.perm_ext_iff_of_nodup distinct (by simp)).mpr ?_)
    intro other
    rw [List.mem_singleton]
    constructor
    · exact fun inside => unique other ((mem_entries_iff flow other).mp inside)
    · rintro rfl
      exact present

end Flow

namespace Graph

/-- The checks that `build` makes, one after the other. -/
theorem build_checks_iff (flow : Flow) (graph : Graph) :
    build flow = .ok graph ↔
      flow.nodes ≠ [] ∧ Flow.checkNodes [] flow.nodes = .ok () ∧
        Flow.checkEdges (flow.nodes.map (·.id)) [] flow.edges = .ok () ∧
        (∀ node ∈ flow.nodes, flow.checkLeaving node = .ok ()) ∧
        flow.entry = .ok graph.entry ∧ flow.hasPlainCycle = false ∧ graph.flow = flow := by
  unfold build
  by_cases empty : flow.nodes = []
  · simp [empty]
  have some : flow.nodes.isEmpty = false := by simpa using empty
  rw [if_neg (by simp [some]), Success.unit_bind_iff, Success.unit_bind_iff,
    Success.unit_bind_iff, Success.forM_iff, Success.bind_iff]
  -- All checks are made before the entry is known, except the one for cycles.
  have accepted (entry : Node) :
      (if flow.hasPlainCycle = true then .error .cycle else .ok ⟨flow, entry⟩) =
          (.ok graph : Except GraphFault Graph) ↔
        flow.hasPlainCycle = false ∧ graph = ⟨flow, entry⟩ := by
    cases flow.hasPlainCycle <;> simp [eq_comm]
  simp only [accepted, ne_eq, empty, not_false_eq_true, true_and]
  refine and_congr_right fun _ => and_congr_right fun _ => and_congr_right fun _ => ?_
  constructor
  · rintro ⟨entry, found, acyclic, rfl⟩
    exact ⟨found, acyclic, rfl⟩
  · rintro ⟨found, acyclic, rfl⟩
    exact ⟨graph.entry, found, acyclic, rfl⟩

theorem build_eq_ok_iff (flow : Flow) (graph : Graph) :
    build flow = .ok graph ↔
      flow.Runnable ∧ graph.flow = flow ∧ graph.entry ∈ flow.nodes ∧
        flow.Unentered graph.entry := by
  rw [build_checks_iff, Flow.checkNodes_iff, Flow.checkEdges_iff, Flow.entry_eq_ok_iff]
  simp only [Flow.checkLeaving_iff]
  constructor
  · rintro ⟨nonempty, ⟨nodeKeys, nodeIds, -⟩, ⟨edgeKeys, edgeIds, -, ends⟩, leaving, only, noWalk,
      same⟩
    obtain ⟨entry, unique⟩ := (Flow.entries_eq_singleton_iff flow nodeIds graph.entry).mp only
    have targets : ∀ edge ∈ flow.edges, edge.target ∈ flow.nodes.map (·.id) :=
      fun edge member => (ends edge member).2
    refine ⟨?_, same, entry⟩
    exact {
      nonempty, nodeIds, edgeIds, nodeKeys, edgeKeys
      sources := fun edge member => List.mem_map.mp (ends edge member).1
      targets := fun edge member => List.mem_map.mp (ends edge member).2
      branches := fun node member => (leaving node member).1
      plain := fun node member => (leaving node member).2
      entry := ⟨graph.entry, entry, unique⟩
      acyclic := by simp [← Flow.hasPlainCycle_iff flow targets, noWalk] }
  · rintro ⟨runnable, same, entry⟩
    have targets : ∀ edge ∈ flow.edges, edge.target ∈ flow.nodes.map (·.id) :=
      fun edge member => List.mem_map.mpr (runnable.targets edge member)
    have noWalk : flow.hasPlainCycle ≠ true := by
      rw [ne_eq, Flow.hasPlainCycle_iff flow targets]
      exact runnable.acyclic
    refine ⟨runnable.nonempty, ⟨runnable.nodeKeys, runnable.nodeIds, by simp⟩,
      ⟨runnable.edgeKeys, runnable.edgeIds, by simp, fun edge member =>
        ⟨List.mem_map.mpr (runnable.sources edge member), targets edge member⟩⟩,
      fun node member => ⟨runnable.branches node member, runnable.plain node member⟩,
      (Flow.entries_eq_singleton_iff flow runnable.nodeIds graph.entry).mpr ⟨entry, ?_⟩,
      by simpa using noWalk, same⟩
    exact fun other candidate => runnable.entry.unique candidate entry

theorem build_of_runnable {flow : Flow} (runnable : flow.Runnable) :
    ∃ graph, build flow = .ok graph := by
  obtain ⟨node, entry, -⟩ := runnable.entry
  exact ⟨⟨flow, node⟩, (build_eq_ok_iff flow ⟨flow, node⟩).mpr ⟨runnable, rfl, entry⟩⟩

/-- A flow makes a graph exactly if it is runnable, and then the entry of the graph is the node
that no edge enters. -/
theorem build_iff_runnable (flow : Flow) :
    ((∃ graph, build flow = .ok graph) ↔ flow.Runnable) ∧
      ∀ graph, build flow = .ok graph →
        graph.flow = flow ∧ graph.entry ∈ flow.nodes ∧ flow.Unentered graph.entry := by
  constructor
  · constructor
    · rintro ⟨graph, built⟩
      exact ((build_eq_ok_iff flow graph).mp built).1
    · intro runnable
      obtain ⟨node, entry, -⟩ := runnable.entry
      exact ⟨⟨flow, node⟩, (build_eq_ok_iff flow ⟨flow, node⟩).mpr ⟨runnable, rfl, entry⟩⟩
  · intro graph built
    exact ((build_eq_ok_iff flow graph).mp built).2

end Graph

/-- A flow that asks again until the state is ready: its loop passes through an assertion. -/
def Flow.polling : Flow where
  nodes :=
    [⟨"begin", .assignment ⟨"state", .string "idle"⟩, {}⟩, ⟨"wait", .delay 5, {}⟩,
      ⟨"check", .assertion ⟨"${state}", .equals, "ready"⟩, {}⟩,
      ⟨"done", .output (.string "over"), {}⟩]
  edges :=
    [⟨"e0", "begin", "wait", none, {}⟩, ⟨"e1", "wait", "check", none, {}⟩,
      ⟨"e2", "check", "wait", some false, {}⟩, ⟨"e3", "check", "done", some true, {}⟩]

namespace Graph

def polling : Graph where
  flow := .polling
  entry := ⟨"begin", .assignment ⟨"state", .string "idle"⟩, {}⟩

theorem build_polling : build .polling = .ok .polling := rfl

theorem polling_runnable :
    build .polling = .ok .polling ∧ Flow.polling.Runnable ∧
      Flow.polling.Unentered polling.entry :=
  ⟨build_polling, (build_iff_runnable .polling).1.mp ⟨.polling, build_polling⟩,
    ((build_iff_runnable .polling).2 .polling build_polling).2.2⟩

end Graph

end Scenario
