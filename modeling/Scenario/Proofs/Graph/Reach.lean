import Scenario.Proofs.Graph.Trail
/-!
What a run can come to.

A loop leads back to where it began. In a graph that was built every loop passes through an
assertion. Every node but the entry is entered by an edge, so from a node that the entry does not
lead to one can walk back for ever without coming to the entry; as there are only so many nodes, such
a walk comes to some node again. So whatever the entry does not lead to, a loop leads to.
-/
namespace Scenario

open Relation (TransGen ReflTransGen)

namespace Flow

/-- Some edge leads from each node to the next, and from the last one back to the first. -/
def Loop (flow : Flow) : List Node → Prop
  | [] => False
  | first :: later => flow.Trail (first :: later ++ [first])

/-- Edges lead from one node to the other, if they are not the same. -/
def Reaches (flow : Flow) (source target : Node) : Prop :=
  ReflTransGen (Leads flow.edges) source.id target.id

variable {flow : Flow} {first last node : Node}

theorem Trail.singleton (known : node ∈ flow.nodes) : flow.Trail [node] :=
  Trail.nil.cons known (by simp)

theorem exists_trail (targets : ∀ edge ∈ flow.edges, ∃ node ∈ flow.nodes, node.id = edge.target)
    (begins : first ∈ flow.nodes) (ends : last ∈ flow.nodes)
    (path : TransGen (Leads flow.edges) first.id last.id) :
    ∃ between, flow.Trail (first :: between ++ [last]) := by
  generalize same : first.id = source at path
  induction path using TransGen.head_induction_on generalizing first with
  | single step =>
    refine ⟨[], (Trail.singleton ends).cons begins ?_⟩
    rintro next ⟨⟩
    rwa [same]
  | head step _ ih =>
    obtain ⟨edge, member, leaves, enters⟩ := step
    obtain ⟨next, known, target⟩ := targets edge member
    obtain ⟨between, trail⟩ := ih known (target.trans enters)
    refine ⟨next :: between, trail.cons begins ?_⟩
    rintro _ ⟨⟩
    exact ⟨edge, member, leaves.trans same.symm, target.symm⟩

/-- A trail with more nodes than the flow has comes to a loop. -/
theorem Trail.exists_loop
    (targets : ∀ edge ∈ flow.edges, ∃ node ∈ flow.nodes, node.id = edge.target)
    {nodes : List Node} (trail : flow.Trail nodes) (long : flow.nodes.length < nodes.length) :
    ∃ loop, flow.Loop loop ∧ ∃ node ∈ nodes, node ∈ loop := by
  have repeats : ¬ (nodes.map (·.id)).Nodup := fun distinct =>
    absurd (trail.length_le distinct) (Nat.not_le.mpr long)
  obtain ⟨id, visited, cycle⟩ :=
    exists_cycle_of_chain ((List.isChain_map _).mpr trail.chain) repeats
  obtain ⟨node, member, rfl⟩ := List.mem_map.mp visited
  have known := trail.known node member
  obtain ⟨between, back⟩ := exists_trail targets known known cycle
  exact ⟨node :: between, back, node, member, List.mem_cons_self⟩

section Entry

variable {entry : Node} (runnable : flow.Runnable) (unentered : flow.Unentered entry)
  (begins : entry ∈ flow.nodes)
include runnable

theorem exists_source (entered : ¬ flow.Unentered node) :
    ∃ source ∈ flow.nodes, Leads flow.edges source.id node.id := by
  unfold Unentered at entered
  push Not at entered
  obtain ⟨edge, member, target⟩ := entered
  obtain ⟨source, leaves, same⟩ := runnable.sources edge member
  exact ⟨source, leaves, edge, member, same.symm, target⟩

include unentered begins

/-- From a node that the entry does not lead to one can walk back for ever. -/
theorem exists_walk_back (known : node ∈ flow.nodes) (apart : ¬ flow.Reaches entry node)
    (length : Nat) :
    ∃ nodes, nodes.length = length + 1 ∧ flow.Trail nodes ∧
      (∀ start ∈ nodes, flow.Reaches start node) ∧
      ∀ start ∈ nodes.head?, ¬ flow.Reaches entry start := by
  induction length with
  | zero =>
    refine ⟨[node], rfl, Trail.singleton known, ?_, ?_⟩
    · exact List.forall_mem_singleton.mpr .refl
    · rintro _ ⟨⟩
      exact apart
  | succ length ih =>
    obtain ⟨nodes, size, trail, onward, away⟩ := ih
    obtain ⟨first, later, rfl⟩ := List.exists_cons_of_length_eq_add_one size
    have away : ¬ flow.Reaches entry first := away first rfl
    have entered : ¬ flow.Unentered first := by
      intro free
      have member := trail.known first List.mem_cons_self
      have same := runnable.entry.unique ⟨member, free⟩ ⟨begins, unentered⟩
      exact away (same ▸ .refl)
    obtain ⟨source, member, leads⟩ := exists_source runnable entered
    refine ⟨source :: first :: later, by rw [List.length_cons, size], trail.cons member ?_, ?_, ?_⟩
    · rintro _ ⟨⟩
      exact leads
    · exact List.forall_mem_cons.mpr ⟨.head leads (onward first List.mem_cons_self), onward⟩
    · rintro _ ⟨⟩
      exact fun reached => away (ReflTransGen.tail reached leads)

theorem exists_loop_to (known : node ∈ flow.nodes) (apart : ¬ flow.Reaches entry node) :
    ∃ loop, flow.Loop loop ∧ ∃ start ∈ loop, flow.Reaches start node := by
  obtain ⟨nodes, size, trail, onward, -⟩ :=
    exists_walk_back runnable unentered begins known apart flow.nodes.length
  obtain ⟨loop, closed, start, visited, inside⟩ :=
    trail.exists_loop runnable.targets (by rw [size]; exact Nat.lt_succ_self _)
  exact ⟨loop, closed, start, inside, onward start visited⟩

end Entry

theorem Loop.exists_assertion (runnable : flow.Runnable) {loop : List Node}
    (closed : flow.Loop loop) : ∃ node ∈ loop, node.kind = .assertion := by
  cases loop with
  | nil => exact closed.elim
  | cons first later => exact closed.parted runnable [] first later first [] (by simp) rfl

end Flow

namespace Graph

/-- In a graph that was built every loop passes through an assertion, and a node that the entry does
not lead to is one that a loop leads to. Without loops the entry leads to every node. -/
theorem build_reaches {flow : Flow} {graph : Graph} (built : build flow = .ok graph) :
    (∀ loop, flow.Loop loop → ∃ node ∈ loop, node.kind = .assertion) ∧
    (∀ node ∈ flow.nodes, ¬ flow.Reaches graph.entry node →
      ∃ loop, flow.Loop loop ∧ ∃ start ∈ loop, flow.Reaches start node) ∧
    ((∀ loop, ¬ flow.Loop loop) → ∀ node ∈ flow.nodes, flow.Reaches graph.entry node) := by
  obtain ⟨runnable, -, begins, unentered⟩ := (build_eq_ok_iff flow graph).mp built
  have hangs : ∀ node ∈ flow.nodes, ¬ flow.Reaches graph.entry node →
      ∃ loop, flow.Loop loop ∧ ∃ start ∈ loop, flow.Reaches start node :=
    fun node known => Flow.exists_loop_to runnable unentered begins known
  refine ⟨fun loop closed => closed.exists_assertion runnable, hangs, fun none node known => ?_⟩
  by_contra apart
  obtain ⟨loop, closed, -⟩ := hangs node known apart
  exact none loop closed

end Graph

/-- A flow with a loop beside its only step: the entry does not lead to the loop. -/
def Flow.stranded : Flow where
  nodes :=
    [⟨"begin", .delay 5, {}⟩, ⟨"check", .assertion ⟨"${state}", .equals, "ready"⟩, {}⟩,
      ⟨"wait", .delay 5, {}⟩, ⟨"done", .output (.string "over"), {}⟩]
  edges :=
    [⟨"e0", "check", "wait", some false, {}⟩, ⟨"e1", "wait", "check", none, {}⟩,
      ⟨"e2", "check", "done", some true, {}⟩]

def Graph.stranded : Graph where
  flow := .stranded
  entry := ⟨"begin", .delay 5, {}⟩

namespace Graph

theorem stranded_hangs :
    build .stranded = .ok .stranded ∧
      ¬ Flow.stranded.Reaches stranded.entry ⟨"done", .output (.string "over"), {}⟩ ∧
      ∃ loop, Flow.stranded.Loop loop ∧ (∃ node ∈ loop, node.kind = .assertion) ∧
        ∃ start ∈ loop, Flow.stranded.Reaches start ⟨"done", .output (.string "over"), {}⟩ := by
  have built : build .stranded = .ok .stranded := rfl
  obtain ⟨branching, hangs, -⟩ := build_reaches built
  -- No edge leaves the first node.
  have apart : ¬ Flow.stranded.Reaches stranded.entry ⟨"done", .output (.string "over"), {}⟩ := by
    intro reached
    rcases ReflTransGen.cases_head reached with same | ⟨next, ⟨edge, member, leaves, -⟩, -⟩
    · exact absurd same (by decide)
    · revert edge
      decide
  obtain ⟨loop, closed, start⟩ := hangs _ (by decide) apart
  exact ⟨built, apart, loop, closed, branching loop closed, start⟩

end Graph

end Scenario
