import Scenario.Proofs.Graph.Exits
/-!
Flows that lead the same way.

Two flows are alike if each node and each edge of the one has its like in the other. Order, metadata
and the ids of edges do not matter, and if credentials are hidden, neither do the credentials that
the nodes put in force. From nodes that are alike, graphs of such flows lead to nodes that are alike.
-/
namespace Scenario

/-- The steps are the same, or both put credentials in force and these are hidden. -/
inductive Step.Alike (hidden : Prop) : Step → Step → Prop where
  | same (step : Step) : Alike hidden step step
  | auth (data other : Auth) : hidden → Alike hidden (.auth data) (.auth other)

theorem Step.Alike.kind_eq {hidden : Prop} {step twin : Step} (alike : step.Alike hidden twin) :
    twin.kind = step.kind := by
  cases alike <;> rfl

structure Node.Alike (hidden : Prop) (node twin : Node) : Prop where
  id : twin.id = node.id
  step : node.step.Alike hidden twin.step

theorem Node.Alike.kind_eq {hidden : Prop} {node twin : Node} (alike : node.Alike hidden twin) :
    twin.kind = node.kind := alike.step.kind_eq

structure Edge.Alike (edge twin : Edge) : Prop where
  source : twin.source = edge.source
  target : twin.target = edge.target
  label : twin.label = edge.label

theorem Edge.Alike.symm {edge twin : Edge} (alike : edge.Alike twin) : twin.Alike edge :=
  ⟨alike.source.symm, alike.target.symm, alike.label.symm⟩

namespace Flow

structure Alike (hidden : Prop) (flow twin : Flow) : Prop where
  nodes : ∀ node ∈ flow.nodes, ∃ other ∈ twin.nodes, node.Alike hidden other
  edges : ∀ edge ∈ flow.edges, ∃ other ∈ twin.edges, edge.Alike other
  edgesBack : ∀ other ∈ twin.edges, ∃ edge ∈ flow.edges, edge.Alike other

variable {hidden : Prop} {flow twin : Flow}

theorem Alike.node (alike : flow.Alike hidden twin) (nodeIds : (twin.nodes.map (·.id)).Nodup)
    {node other : Node} (member : node ∈ flow.nodes) (inside : other ∈ twin.nodes)
    (same : other.id = node.id) : node.Alike hidden other := by
  obtain ⟨like, present, likes⟩ := alike.nodes node member
  have isOther : like = other :=
    List.inj_on_of_nodup_map nodeIds present inside (likes.id.trans same.symm)
  exact isOther ▸ likes

theorem Alike.unentered (alike : flow.Alike hidden twin) {node other : Node}
    (likes : node.Alike hidden other) (unentered : flow.Unentered node) : twin.Unentered other := by
  intro edge member
  obtain ⟨like, present, edges⟩ := alike.edgesBack edge member
  rw [edges.target, likes.id]
  exact unentered like present

end Flow

namespace Graph

variable {hidden : Prop} {graph twin : Graph} {id : String} {branch : Option Bool}

theorem mem_exits_iff {edge : Edge} :
    edge ∈ graph.exits id branch ↔
      edge ∈ graph.flow.edges ∧ edge.source = id ∧ ∀ label ∈ branch, edge.label = some label := by
  cases branch with
  | none => simp [exits, edgesFrom, Flow.mem_edgesFrom_iff]
  | some label => simp [exits, edgesFrom, Flow.mem_edgesFrom_iff, and_assoc]

theorem mem_exits_of_alike {edge other : Edge} (likes : edge.Alike other)
    (present : other ∈ twin.flow.edges) (member : edge ∈ graph.exits id branch) :
    other ∈ twin.exits id branch := by
  obtain ⟨-, source, label⟩ := mem_exits_iff.mp member
  rw [mem_exits_iff, likes.source, likes.label]
  exact ⟨present, source, label⟩

theorem exits_eq_nil_of_alike (alike : graph.flow.Alike hidden twin.flow)
    (nothing : graph.exits id branch = []) : twin.exits id branch = [] := by
  rw [List.eq_nil_iff_forall_not_mem] at nothing ⊢
  intro other member
  obtain ⟨edge, present, likes⟩ := alike.edgesBack other (mem_of_exits member)
  exact nothing edge (mem_exits_of_alike likes.symm present member)

/-- What comes next in two graphs: like nodes, nothing in both, or the same dead end. -/
inductive NextAlike (hidden : Prop) (graph twin : Graph) :
    Except RunError (Option Node) → Except RunError (Option Node) → Prop where
  | node {target other : Node} : target ∈ graph.nodes → other ∈ twin.nodes →
    target.Alike hidden other → NextAlike hidden graph twin (.ok (some target)) (.ok (some other))
  | nothing : NextAlike hidden graph twin (.ok none) (.ok none)
  | deadEnd (e : RunError) : NextAlike hidden graph twin (.error e) (.error e)

theorem next_alike (runnable : graph.flow.Runnable) (twinRunnable : twin.flow.Runnable)
    (alike : graph.flow.Alike hidden twin.flow) {node other : Node} (member : node ∈ graph.nodes)
    (inside : other ∈ twin.nodes) (likes : node.Alike hidden other)
    (fits : branch = none ↔ node.kind ≠ .assertion) :
    NextAlike hidden graph twin (graph.next node branch) (twin.next other branch) := by
  have twinFits : branch = none ↔ other.kind ≠ .assertion := by rw [likes.kind_eq, fits]
  have twinCases := next_cases twinRunnable inside twinFits
  rw [likes.id] at twinCases
  rcases next_cases runnable member fits with ⟨edge, target, only, reached, enters, next⟩ |
    ⟨plain, nothing, next⟩ | ⟨label, verdict, nothing, next⟩
  · -- The like of the only exit is an exit of the twin, so it is the only one there.
    have isExit : edge ∈ graph.exits node.id branch := only ▸ List.mem_singleton_self edge
    obtain ⟨second, present, edges⟩ := alike.edges edge (mem_of_exits isExit)
    have twinExit := mem_exits_of_alike edges present isExit
    rcases twinCases with ⟨exit, arrival, twinOnly, arrives, leads, twinNext⟩ |
      ⟨-, nothing, -⟩ | ⟨-, -, nothing, -⟩
    · rw [twinOnly, List.mem_singleton] at twinExit
      rw [next, twinNext]
      refine .node reached arrives (alike.node twinRunnable.nodeIds reached arrives ?_)
      rw [leads, ← twinExit, edges.target, enters]
    · simp [nothing] at twinExit
    · simp [nothing] at twinExit
  · have twinNothing := exits_eq_nil_of_alike alike nothing
    rcases twinCases with ⟨exit, arrival, twinOnly, -⟩ | ⟨-, -, twinNext⟩ | ⟨label, verdict, -⟩
    · simp [twinNothing] at twinOnly
    · rw [next, twinNext]
      exact .nothing
    · rw [plain] at verdict
      cases verdict
  · have twinNothing := exits_eq_nil_of_alike alike nothing
    rcases twinCases with ⟨exit, arrival, twinOnly, -⟩ | ⟨plain, -⟩ | ⟨other', same, -, twinNext⟩
    · simp [twinNothing] at twinOnly
    · rw [verdict] at plain
      cases plain
    · rw [verdict] at same
      cases same
      rw [next, twinNext]
      exact .deadEnd _

end Graph

end Scenario
