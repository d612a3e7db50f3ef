import Mathlib.Data.List.Chain
import Mathlib.Logic.Relation
import Scenario.Flow.Graph
/-!
Cycles along edges that do not leave an assertion.

`Flow.hasPlainCycle` looks for a walk with as many edges as there are nodes. Such a walk exists
exactly if some node is reached from itself: on a cycle one can walk for ever, and without a cycle
a walk never visits a node twice, so it is shorter than the list of nodes.
-/
namespace Scenario.Flow

open Relation (TransGen ReflTransGen)

def Leads (edges : List Edge) (source target : String) : Prop :=
  ∃ edge ∈ edges, edge.source = source ∧ edge.target = target

/-- Some edge leads from a node that is no assertion to another node. -/
def PlainLeads (flow : Flow) (source target : String) : Prop :=
  (∃ node ∈ flow.nodes, node.id = source ∧ node.kind ≠ .assertion) ∧
    Leads flow.edges source target

theorem mem_plainEdges_iff (flow : Flow) (edge : Edge) :
    edge ∈ flow.plainEdges ↔
      edge ∈ flow.edges ∧ ∃ node ∈ flow.nodes, node.id = edge.source ∧ node.kind ≠ .assertion := by
  simp [plainEdges]

theorem leads_plainEdges_iff (flow : Flow) (source target : String) :
    Leads flow.plainEdges source target ↔ flow.PlainLeads source target := by
  constructor
  · rintro ⟨edge, member, leaves, enters⟩
    obtain ⟨present, node, inFlow, same, plain⟩ := (mem_plainEdges_iff flow edge).mp member
    exact ⟨⟨node, inFlow, same.trans leaves, plain⟩, edge, present, leaves, enters⟩
  · rintro ⟨⟨node, inFlow, same, plain⟩, edge, present, leaves, enters⟩
    refine ⟨edge, (mem_plainEdges_iff flow edge).mpr ⟨present, node, inFlow, ?_, plain⟩,
      leaves, enters⟩
    rw [same, leaves]

section Walks
variable {edges : List Edge}

/-- From a node on a cycle some edge leads to a node on a cycle, so a walk can always go on. -/
theorem walks_of_cycle {id : String} (cycle : TransGen (Leads edges) id id) (length : Nat) :
    walks edges length id = true := by
  induction length generalizing id with
  | zero => rfl
  | succ length ih =>
    obtain ⟨next, first, back⟩ := TransGen.head'_iff.mp cycle
    have onward : walks edges length next = true := ih (TransGen.tail' back first)
    obtain ⟨edge, member, leaves, enters⟩ := first
    rw [walks, List.any_eq_true]
    exact ⟨edge, member, by simp [leaves, enters, onward]⟩

/-- The nodes that a walk visits after its first one. -/
theorem exists_chain_of_walks {length : Nat} {id : String}
    (walk : walks edges length id = true) :
    ∃ later : List String, later.length = length ∧ (id :: later).IsChain (Leads edges) := by
  induction length generalizing id with
  | zero => exact ⟨[], rfl, .singleton id⟩
  | succ length ih =>
    rw [walks, List.any_eq_true] at walk
    obtain ⟨edge, member, step⟩ := walk
    simp only [Bool.and_eq_true, decide_eq_true_eq] at step
    obtain ⟨later, size, chain⟩ := ih step.2
    refine ⟨edge.target :: later, by simp [size], .cons_cons ?_ chain⟩
    exact ⟨edge, member, step.1, rfl⟩

theorem exists_cycle_of_chain {path : List String} (chain : path.IsChain (Leads edges))
    (repeats : ¬ path.Nodup) : ∃ id ∈ path, TransGen (Leads edges) id id := by
  have closure : path.IsChain (TransGen (Leads edges)) :=
    chain.imp fun _ _ step => TransGen.single step
  have apart : path.Pairwise (TransGen (Leads edges)) := List.isChain_iff_pairwise.mp closure
  by_contra none
  refine repeats (apart.imp_of_mem ?_)
  rintro a b member - between rfl
  exact none ⟨a, member, between⟩

theorem nodup_of_chain {path : List String} (acyclic : ∀ id, ¬ TransGen (Leads edges) id id)
    (chain : path.IsChain (Leads edges)) : path.Nodup := by
  by_contra repeats
  obtain ⟨id, -, cycle⟩ := exists_cycle_of_chain chain repeats
  exact acyclic id cycle

theorem exists_edge_into {first id : String} {later : List String}
    (chain : (first :: later).IsChain (Leads edges)) (member : id ∈ later) :
    ∃ edge ∈ edges, edge.target = id := by
  induction later generalizing first with
  | nil => cases member
  | cons next rest ih =>
    obtain ⟨step, tail⟩ := List.isChain_cons_cons.mp chain
    rcases List.mem_cons.mp member with same | later
    · obtain ⟨edge, present, _, enters⟩ := step
      exact ⟨edge, present, enters.trans same.symm⟩
    · exact ih tail later

end Walks

/-- The search finds a cycle exactly if there is one, provided that edges end at nodes. -/
theorem hasPlainCycle_iff (flow : Flow)
    (ends : ∀ edge ∈ flow.edges, edge.target ∈ flow.nodes.map (·.id)) :
    flow.hasPlainCycle = true ↔ ∃ id, TransGen flow.PlainLeads id id := by
  have same : Leads flow.plainEdges = flow.PlainLeads := by
    funext source target
    exact propext (leads_plainEdges_iff flow source target)
  rw [← same, hasPlainCycle, List.any_eq_true]
  constructor
  · rintro ⟨node, member, walk⟩
    by_contra none
    rw [not_exists] at none
    obtain ⟨later, size, chain⟩ := exists_chain_of_walks walk
    -- A walk without repetition is no longer than the list of all ids.
    have distinct : (node.id :: later).Nodup := nodup_of_chain none chain
    have known : node.id :: later ⊆ flow.nodes.map (·.id) := by
      intro id visited
      rcases List.mem_cons.mp visited with first | after
      · exact first ▸ List.mem_map_of_mem member
      · obtain ⟨edge, plain, enters⟩ := exists_edge_into chain after
        exact enters ▸ ends edge ((mem_plainEdges_iff flow edge).mp plain).1
    have bound := distinct.length_le_of_subset known
    simp only [List.length_cons, size, List.length_map] at bound
    omega
  · rintro ⟨id, cycle⟩
    obtain ⟨next, ⟨edge, plain, leaves, _⟩, _⟩ := TransGen.head'_iff.mp cycle
    obtain ⟨_, node, member, same, _⟩ := (mem_plainEdges_iff flow edge).mp plain
    refine ⟨node, member, ?_⟩
    rw [same, leaves]
    exact walks_of_cycle cycle flow.nodes.length

end Scenario.Flow
