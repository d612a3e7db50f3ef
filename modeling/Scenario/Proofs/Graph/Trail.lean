import Scenario.Proofs.Graph.Runnable
/-!
Trails through a flow.

A trail goes from node to node along edges. In a runnable flow every trail that comes back to a
node passes through an assertion on its way, so its assertions cut it into pieces that visit no
node twice. This bounds how long a trail with a given number of assertions can be.
-/
namespace Scenario

open Relation (TransGen)

namespace Flow

/-- Every node is one of the flow, and some edge leads from each of them to the next. -/
structure Trail (flow : Flow) (nodes : List Node) : Prop where
  known : ∀ node ∈ nodes, node ∈ flow.nodes
  chain : nodes.IsChain fun node next => Leads flow.edges node.id next.id

def Acyclic (flow : Flow) : Prop := ¬ ∃ id, TransGen (Leads flow.edges) id id

-- A node that is the same as an earlier one is told by its id, and ids are distinct in a flow.
/-- Whenever a node comes again, it or some node in between is an assertion. -/
def Parted (nodes : List Node) : Prop :=
  ∀ before first between again after, nodes = before ++ first :: between ++ again :: after →
    first.id = again.id → ∃ node ∈ first :: between, node.kind = .assertion

def branchings (nodes : List Node) : Nat := nodes.countP fun node => node.kind = .assertion

variable {flow : Flow} {nodes before after : List Node}

theorem Trail.nil : flow.Trail [] where
  known node member := by cases member
  chain := .nil

theorem Trail.of_append_left (trail : flow.Trail (before ++ after)) : flow.Trail before where
  known node member := trail.known node (List.mem_append_left after member)
  chain := trail.chain.left_of_append

theorem Trail.of_append_right (trail : flow.Trail (before ++ after)) : flow.Trail after where
  known node member := trail.known node (List.mem_append_right before member)
  chain := trail.chain.right_of_append

theorem Trail.cons {node : Node} (trail : flow.Trail nodes) (known : node ∈ flow.nodes)
    (onward : ∀ next ∈ nodes.head?, Leads flow.edges node.id next.id) :
    flow.Trail (node :: nodes) where
  known := List.forall_mem_cons.mpr ⟨known, trail.known⟩
  chain := List.isChain_cons.mpr ⟨onward, trail.chain⟩

theorem Trail.length_le (trail : flow.Trail nodes) (distinct : (nodes.map (·.id)).Nodup) :
    nodes.length ≤ flow.nodes.length := by
  have ids : nodes.map (·.id) ⊆ flow.nodes.map (·.id) := by
    intro id visited
    obtain ⟨node, member, rfl⟩ := List.mem_map.mp visited
    exact List.mem_map_of_mem (trail.known node member)
  have bound := distinct.length_le_of_subset ids
  simpa only [List.length_map] using bound

theorem Trail.nodup_of_acyclic (trail : flow.Trail nodes) (acyclic : flow.Acyclic) :
    (nodes.map (·.id)).Nodup :=
  nodup_of_chain (not_exists.mp acyclic) ((List.isChain_map _).mpr trail.chain)

/-- Before its first assertion a trail visits no node twice. -/
theorem Trail.nodup_of_plain (runnable : flow.Runnable) {last : Node}
    (trail : flow.Trail (nodes ++ [last])) (plain : ∀ node ∈ nodes, node.kind ≠ .assertion) :
    ((nodes ++ [last]).map (·.id)).Nodup := by
  -- All edges of the trail leave a node before the last one, so all of them are plain.
  have chain : (nodes ++ [last]).IsChain
      fun node next => Leads flow.plainEdges node.id next.id := by
    rw [List.isChain_iff_getElem]
    intro index bound
    have inside : index < nodes.length := by
      rw [List.length_append, List.length_singleton] at bound
      omega
    have edge := List.isChain_iff_getElem.mp trail.chain index bound
    rw [leads_plainEdges_iff]
    refine ⟨⟨(nodes ++ [last])[index], trail.known _ (List.getElem_mem _), rfl, ?_⟩, edge⟩
    rw [List.getElem_append_left inside]
    exact plain _ (List.getElem_mem inside)
  have acyclic (id : String) : ¬ TransGen (Leads flow.plainEdges) id id := by
    intro cycle
    refine runnable.acyclic ⟨id, TransGen.mono ?_ _ _ cycle⟩
    intro source target
    exact (leads_plainEdges_iff flow source target).mp
  exact nodup_of_chain acyclic ((List.isChain_map _).mpr chain)

theorem Trail.parted (runnable : flow.Runnable) (trail : flow.Trail nodes) : Parted nodes := by
  rintro before first between again after rfl same
  by_contra plain
  have loop : flow.Trail (first :: between ++ [again]) := by
    have split : before ++ first :: between ++ again :: after =
        before ++ (first :: between ++ [again] ++ after) := by simp
    rw [split] at trail
    exact trail.of_append_right.of_append_left
  have distinct := loop.nodup_of_plain runnable fun node member branching =>
    plain ⟨node, member, branching⟩
  rw [List.map_append, List.nodup_append] at distinct
  exact distinct.2.2 first.id (by simp) again.id (by simp) same

/-- Each assertion begins a new piece, and no piece is longer than the list of all nodes. -/
theorem Trail.length_le_of_branchings (runnable : flow.Runnable) (trail : flow.Trail nodes) :
    nodes.length ≤ (branchings nodes + 1) * flow.nodes.length := by
  -- The piece that was begun stands in front; only what follows it is taken apart.
  have pieces (rest : List Node) : ∀ front : List Node, flow.Trail (front ++ rest) →
      (∀ node ∈ front, node.kind ≠ .assertion) → (front.map (·.id)).Nodup →
      front.length + rest.length ≤ (branchings rest + 1) * flow.nodes.length := by
    induction rest with
    | nil =>
      intro front trail plain distinct
      rw [List.append_nil] at trail
      simpa [branchings] using trail.length_le distinct
    | cons node rest ih =>
      intro front trail plain distinct
      have split : front ++ node :: rest = front ++ [node] ++ rest := by simp
      rw [split] at trail
      have longer := trail.of_append_left.nodup_of_plain runnable plain
      by_cases branching : node.kind = .assertion
      · have piece := trail.of_append_left.length_le longer
        have later := ih [] trail.of_append_right (by simp) List.nodup_nil
        have counted : branchings (node :: rest) = branchings rest + 1 := by
          simp [branchings, branching]
        rw [counted, Nat.add_mul _ 1, Nat.one_mul]
        simp only [List.length_append, List.length_cons, List.length_nil] at piece later ⊢
        omega
      · have grown : ∀ other ∈ front ++ [node], other.kind ≠ .assertion :=
          List.forall_mem_append.mpr ⟨plain, by simpa using branching⟩
        have all := ih (front ++ [node]) trail grown longer
        have counted : branchings (node :: rest) = branchings rest := by
          simp [branchings, branching]
        rw [counted]
        simp only [List.length_append, List.length_cons, List.length_nil] at all ⊢
        omega
  simpa using pieces nodes [] trail (by simp) List.nodup_nil

end Flow

end Scenario
