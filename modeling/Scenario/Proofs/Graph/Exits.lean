import Scenario.Proofs.Graph.Runnable
import Scenario.Run.Basic
/-!
Where a graph goes on.

In a graph that was built, the node that `Graph.next` chooses is the target of the only edge that
may be followed, and the search for that node never fails.
-/
namespace Scenario

namespace Flow

theorem node?_eq_some_iff {flow : Flow} (nodeIds : (flow.nodes.map (·.id)).Nodup) (id : String)
    (node : Node) : flow.node? id = some node ↔ node ∈ flow.nodes ∧ node.id = id := by
  unfold node?
  constructor
  · intro found
    exact ⟨List.mem_of_find?_eq_some found, by simpa using List.find?_some found⟩
  · rintro ⟨member, rfl⟩
    cases found : flow.nodes.find? (fun other => other.id = node.id) with
    | none =>
      rw [List.find?_eq_none] at found
      exact absurd (by simp) (found node member)
    | some other =>
      have same : other.id = node.id := by simpa using List.find?_some found
      exact congrArg some
        (List.inj_on_of_nodup_map nodeIds (List.mem_of_find?_eq_some found) member same)

end Flow

namespace Graph

/-- The edges that may be followed from a node: all that leave it, and from an assertion those
with its verdict as label. -/
def exits (graph : Graph) (id : String) : Option Bool → List Edge
  | none => graph.edgesFrom id
  | some label => (graph.edgesFrom id).filter (·.label = some label)

theorem leaving_of_exits {graph : Graph} {id : String} {branch : Option Bool} {edge : Edge}
    (member : edge ∈ graph.exits id branch) : edge ∈ graph.flow.edges ∧ edge.source = id := by
  have leaving : edge ∈ graph.edgesFrom id := by
    cases branch with
    | none => exact member
    | some label => exact (List.mem_filter.mp member).1
  exact (Flow.mem_edgesFrom_iff graph.flow id edge).mp leaving

theorem mem_of_exits {graph : Graph} {id : String} {branch : Option Bool} {edge : Edge}
    (member : edge ∈ graph.exits id branch) : edge ∈ graph.flow.edges :=
  (leaving_of_exits member).1

theorem choose_eq (graph : Graph) (node : Node) (branch : Option Bool) :
    graph.choose node branch =
      match (graph.exits node.id branch).head?, branch with
      | some edge, _ => .ok (some edge)
      | none, none => .ok none
      | none, some label => .error (.deadEnd node.id label) := by
  cases branch with
  | none => cases leaving : graph.edgesFrom node.id <;> simp [choose, exits, leaving]
  | some label =>
    rw [exits, List.head?_filter, choose]
    cases (graph.edgesFrom node.id).find? (fun edge => edge.label = some label) <;> rfl

variable {graph : Graph} (runnable : graph.flow.Runnable)
include runnable

/-- Of the edges that leave an assertion each label has one at most, and any other node has one
edge at most. -/
theorem exits_length_le_one {node : Node} (member : node ∈ graph.nodes) {branch : Option Bool}
    (fits : branch = none ↔ node.kind ≠ .assertion) : (graph.exits node.id branch).length ≤ 1 := by
  cases branch with
  | none => exact (runnable.plain node member (fits.mp rfl)).2
  | some label =>
    have branching : node.kind = .assertion := by
      by_contra plain
      cases fits.mpr plain
    have distinct := (runnable.branches node member branching).2
    -- All these edges have the same label, and no label stands twice.
    have labels : ((graph.exits node.id (some label)).map (·.label)).Nodup :=
      distinct.sublist (List.filter_sublist.map _)
    have same : (graph.exits node.id (some label)).map (·.label) =
        List.replicate (graph.exits node.id (some label)).length (some label) := by
      rw [List.eq_replicate_iff]
      refine ⟨by simp, fun other inside => ?_⟩
      obtain ⟨edge, chosen, rfl⟩ := List.mem_map.mp inside
      simpa using (List.mem_filter.mp chosen).2
    rw [same, List.nodup_replicate] at labels
    exact labels

/-- A run goes on at the target of the only exit; without an exit it is over, and an assertion
without one is a dead end. -/
theorem next_cases {node : Node} (member : node ∈ graph.nodes) {branch : Option Bool}
    (fits : branch = none ↔ node.kind ≠ .assertion) :
    (∃ edge target, graph.exits node.id branch = [edge] ∧ target ∈ graph.nodes ∧
      target.id = edge.target ∧ graph.next node branch = .ok (some target)) ∨
    (branch = none ∧ graph.exits node.id branch = [] ∧ graph.next node branch = .ok none) ∨
    ∃ label, branch = some label ∧ graph.exits node.id branch = [] ∧
      graph.next node branch = .error (.deadEnd node.id label) := by
  have bound := exits_length_le_one runnable member fits
  have chosen := choose_eq graph node branch
  unfold next
  rw [chosen]
  rcases leaving : graph.exits node.id branch with _ | ⟨edge, _ | ⟨other, rest⟩⟩
  · cases branch with
    | none => exact .inr (.inl ⟨rfl, rfl, rfl⟩)
    | some label => exact .inr (.inr ⟨label, rfl, rfl, rfl⟩)
  · have present : edge ∈ graph.flow.edges := mem_of_exits (leaving ▸ List.mem_singleton_self edge)
    obtain ⟨target, inside, same⟩ := runnable.targets edge present
    have found : graph.node? edge.target = some target :=
      (Flow.node?_eq_some_iff runnable.nodeIds edge.target target).mpr ⟨inside, same⟩
    refine .inl ⟨edge, target, rfl, inside, same, ?_⟩
    simp only [List.head?_cons, bind, Except.bind, found]
    rfl
  · rw [leaving] at bound
    simp at bound

end Graph

end Scenario
