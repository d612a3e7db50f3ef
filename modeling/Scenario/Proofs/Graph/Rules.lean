import Scenario.Proofs.Graph.Index
/-!
Which rule a flow breaks first.

A `Rule` is a rule for flows together with the place in the flow to which it is applied.
`Flow.rules` lists the rules of a flow in order, and `Flow.Breaks` says when a flow breaks one of
them and what there is to say about it, without saying how that is found out. A flow that makes no
graph is refused for the first rule in the list that it breaks, and what the fault says about the
flow is so.
-/
namespace Scenario

open Relation (TransGen)

section FirstBroken
variable {ρ ε α β : Type} {breaks : ρ → ε → Prop} {rule : ρ} {rules later : List ρ} {fault : ε}
  {x : Except ε α}

/-- The fault is that of the first rule that is broken. -/
def FirstBroken (breaks : ρ → ε → Prop) (rules : List ρ) (fault : ε) : Prop :=
  ∃ before rule after, rules = before ++ rule :: after ∧ breaks rule fault ∧
    ∀ earlier ∈ before, ∀ other, ¬ breaks earlier other

/-- A computation that checks some rules in order: it fails for the first that is broken. -/
def Checks (breaks : ρ → ε → Prop) (rules : List ρ) : Except ε α → Prop
  | .ok _ => ∀ rule ∈ rules, ∀ fault, ¬ breaks rule fault
  | .error fault => FirstBroken breaks rules fault

namespace Checks

theorem nil (a : α) : Checks breaks [] (.ok a : Except ε α) := by
  intro rule member
  cases member

theorem broken (isBroken : breaks rule fault) :
    Checks breaks (rule :: rules) (.error fault : Except ε α) :=
  ⟨[], rule, rules, rfl, isBroken, by simp⟩

theorem kept (isKept : ∀ fault, ¬ breaks rule fault) (checks : Checks breaks rules x) :
    Checks breaks (rule :: rules) x := by
  cases x with
  | ok a => exact List.forall_mem_cons.mpr ⟨isKept, checks⟩
  | error fault =>
    obtain ⟨before, first, after, rfl, isBroken, earlier⟩ := checks
    exact ⟨rule :: before, first, after, rfl, isBroken, List.forall_mem_cons.mpr ⟨isKept, earlier⟩⟩

theorem allKept (areKept : ∀ rule ∈ rules, ∀ fault, ¬ breaks rule fault)
    (checks : Checks breaks later x) : Checks breaks (rules ++ later) x := by
  induction rules with
  | nil => exact checks
  | cons rule rules ih =>
    obtain ⟨isKept, others⟩ := List.forall_mem_cons.mp areKept
    exact (ih others).kept isKept

theorem bind {f : α → Except ε β} (checks : Checks breaks rules x)
    (next : ∀ a, x = .ok a → Checks breaks later (f a)) :
    Checks breaks (rules ++ later) (x >>= f) := by
  cases x with
  | ok a => exact (next a rfl).allKept checks
  | error fault =>
    obtain ⟨before, first, after, rfl, isBroken, earlier⟩ := checks
    exact ⟨before, first, after ++ later, by simp, isBroken, earlier⟩

theorem ite {condition : Prop} [Decidable condition]
    (exact : ∀ other, breaks rule other ↔ condition ∧ other = fault)
    (next : ¬ condition → Checks breaks rules x) :
    Checks breaks (rule :: rules) (if condition then .error fault else x) := by
  by_cases holds : condition
  · rw [if_pos holds]
    exact broken ((exact fault).mpr ⟨holds, rfl⟩)
  · rw [if_neg holds]
    exact (next holds).kept fun other isBroken => holds ((exact other).mp isBroken).1

theorem forM {ι : Type} {items : List ι} {check : ι → Except ε Unit} {start : Nat}
    {rulesOf : ι × Nat → List ρ}
    (each : ∀ item ∈ items.zipIdx start, Checks breaks (rulesOf item) (check item.1)) :
    Checks breaks ((items.zipIdx start).flatMap rulesOf) (items.forM check) := by
  induction items generalizing start with
  | nil => exact nil ()
  | cons item items ih =>
    rw [List.zipIdx_cons] at each ⊢
    obtain ⟨first, others⟩ := List.forall_mem_cons.mp each
    exact first.bind fun _ _ => ih others

/-- If a rule can be broken in one way only, the first fault is all that the computation can fail
with. -/
theorem eq_error_iff (single : ∀ rule a b, breaks rule a → breaks rule b → a = b)
    (checks : Checks breaks rules x) (fault : ε) :
    x = .error fault ↔ FirstBroken breaks rules fault := by
  constructor
  · rintro rfl
    exact checks
  · rintro ⟨before, rule, after, rfl, isBroken, earlier⟩
    cases x with
    | ok a => exact absurd isBroken (checks rule (by simp) fault)
    | error other =>
      obtain ⟨before', rule', after', same, isBroken', earlier'⟩ := checks
      -- Of two first broken rules neither stands before the other.
      rcases List.append_eq_append_iff.mp same with ⟨_ | ⟨first, between⟩, rfl, rest⟩ |
        ⟨_ | ⟨first, between⟩, rfl, rest⟩
      · cases rest
        rw [single rule other fault isBroken' isBroken]
      · cases rest
        exact absurd isBroken (earlier' rule (by simp) fault)
      · cases rest
        rw [single rule other fault isBroken' isBroken]
      · cases rest
        exact absurd isBroken' (earlier rule' (by simp) other)

end Checks

end FirstBroken

/-- A rule for flows, applied to the node or edge at a place. Of the edges that leave a node, one is
picked out by how many newer ones there are. -/
inductive Rule where
  /-- There is a node. -/
  | nonempty
  /-- The metadata of a node do not bind a key. -/
  | nodeKey (place : Nat) (key : String)
  /-- No earlier node has the same id. -/
  | nodeId (place : Nat)
  | edgeKey (place : Nat) (key : String)
  | edgeId (place : Nat)
  /-- An edge leaves a node. -/
  | source (place : Nat)
  | target (place : Nat)
  /-- An edge that leaves an assertion has a label. -/
  | branchLabel (place newer : Nat)
  /-- No newer edge that leaves the assertion has the same label. -/
  | branchOnce (place newer : Nat)
  /-- Any other node is left by one edge at most. -/
  | plainCount (place : Nat)
  | plainLabel (place newer : Nat)
  | someEntry
  | oneEntry
  | acyclic
deriving DecidableEq

namespace Flow

instance (flow : Flow) (node : Node) : Decidable (flow.Unentered node) :=
  inferInstanceAs (Decidable (∀ edge ∈ flow.edges, edge.target ≠ node.id))

/-- The edges that leave a node, the last one of the flow first. -/
def leaving (flow : Flow) (node : Node) : List Edge := (flow.edgesFrom node.id).reverse

/-- When a flow breaks a rule, and with what fault. -/
def Breaks (flow : Flow) : Rule → GraphFault → Prop
  | .nonempty, fault => flow.nodes = [] ∧ fault = .empty
  | .nodeKey place key, fault => ∃ node ∈ flow.nodes[place]?,
    (key ∈ reservedNodeKeys ∧ node.metadata.get? key ≠ none) ∧ fault = .reservedKey node.id key
  | .nodeId place, fault => ∃ node ∈ flow.nodes[place]?,
    node.id ∈ (flow.nodes.take place).map (·.id) ∧ fault = .duplicateNode node.id
  | .edgeKey place key, fault => ∃ edge ∈ flow.edges[place]?,
    (key ∈ reservedEdgeKeys ∧ edge.metadata.get? key ≠ none) ∧ fault = .reservedKey edge.id key
  | .edgeId place, fault => ∃ edge ∈ flow.edges[place]?,
    edge.id ∈ (flow.edges.take place).map (·.id) ∧ fault = .duplicateEdge edge.id
  | .source place, fault => ∃ edge ∈ flow.edges[place]?,
    edge.source ∉ flow.nodes.map (·.id) ∧ fault = .unknownNode edge.id edge.source
  | .target place, fault => ∃ edge ∈ flow.edges[place]?,
    edge.target ∉ flow.nodes.map (·.id) ∧ fault = .unknownNode edge.id edge.target
  | .branchLabel place newer, fault => ∃ node ∈ flow.nodes[place]?,
    ∃ edge ∈ (flow.leaving node)[newer]?,
      (node.kind = .assertion ∧ edge.label = none) ∧ fault = .missingLabel edge.id node.id
  | .branchOnce place newer, fault => ∃ node ∈ flow.nodes[place]?,
    ∃ edge ∈ (flow.leaving node)[newer]?, ∃ label ∈ edge.label,
      (node.kind = .assertion ∧ some label ∈ ((flow.leaving node).take newer).map (·.label)) ∧
        fault = .duplicateLabel node.id label
  | .plainCount place, fault => ∃ node ∈ flow.nodes[place]?,
    (node.kind ≠ .assertion ∧ 1 < (flow.leaving node).length) ∧
      fault = .tooManyEdges node.id node.kind (flow.leaving node).length
  | .plainLabel place newer, fault => ∃ node ∈ flow.nodes[place]?,
    ∃ edge ∈ (flow.leaving node)[newer]?,
      (node.kind ≠ .assertion ∧ edge.label ≠ none) ∧
        fault = .unexpectedLabel edge.id node.id node.kind
  | .someEntry, fault => (∀ node ∈ flow.nodes, ¬ flow.Unentered node) ∧ fault = .noEntry
  | .oneEntry, fault =>
    1 < (flow.nodes.filter fun node => flow.Unentered node).length ∧
      fault = .severalEntries ((flow.nodes.filter fun node => flow.Unentered node).map (·.id))
  | .acyclic, fault => (∃ id, TransGen flow.PlainLeads id id) ∧ fault = .cycle

def nodeRules (place : Nat) : List Rule :=
  reservedNodeKeys.map (.nodeKey place) ++ [.nodeId place]

def edgeRules (place : Nat) : List Rule :=
  reservedEdgeKeys.map (.edgeKey place) ++ [.edgeId place, .source place, .target place]

/-- The rules for the edges that leave the node at a place. -/
def exitRules (flow : Flow) (numbered : Node × Nat) : List Rule :=
  let (node, place) := numbered
  if node.kind = .assertion then
    (List.range (flow.leaving node).length).flatMap fun newer =>
      [.branchLabel place newer, .branchOnce place newer]
  else
    .plainCount place :: (List.range (flow.leaving node).length).map (.plainLabel place)

/-- The rules for a flow in their order: nodes, then edges, then the edges at each node, then the
entry, then loops. -/
def rules (flow : Flow) : List Rule :=
  .nonempty ::
    [(List.range flow.nodes.length).flatMap nodeRules,
      (List.range flow.edges.length).flatMap edgeRules,
      flow.nodes.zipIdx.flatMap flow.exitRules,
      [.someEntry, .oneEntry],
      [.acyclic]].flatten

theorem breaks_functional {flow : Flow} (rule : Rule) (a b : GraphFault)
    (first : flow.Breaks rule a) (second : flow.Breaks rule b) : a = b := by
  cases rule <;> simp only [Breaks, Option.mem_def] at first second <;> grind

section Phases
variable {flow : Flow}

theorem checks_keys {rule : String → Rule} {reserved : List String} {owner : String}
    {metadata : Metadata}
    (exact : ∀ key ∈ reserved, ∀ fault, flow.Breaks (rule key) fault ↔
      metadata.contains key = true ∧ fault = .reservedKey owner key) :
    Checks flow.Breaks (reserved.map rule) (checkKeys reserved owner metadata) := by
  induction reserved with
  | nil => exact .nil ()
  | cons key reserved ih =>
    obtain ⟨first, others⟩ := List.forall_mem_cons.mp exact
    rw [checkKeys, List.find?_cons]
    cases bound : metadata.contains key with
    | true => exact .broken ((first _).mpr ⟨bound, rfl⟩)
    | false =>
      refine .kept (fun fault isBroken => ?_) (ih others)
      rw [first, bound] at isBroken
      cases isBroken.1

theorem checks_nodes (earlier rest : List Node) (split : flow.nodes = earlier ++ rest)
    (seen : List String) (same : ∀ id, id ∈ seen ↔ id ∈ earlier.map (·.id)) :
    Checks flow.Breaks ((List.range' earlier.length rest.length).flatMap nodeRules)
      (checkNodes seen rest) := by
  induction rest generalizing earlier seen with
  | nil => exact .nil ()
  | cons node rest ih =>
    have here : flow.nodes[earlier.length]? = some node := by simp [split]
    have before : flow.nodes.take earlier.length = earlier := by simp [split]
    rw [List.length_cons, List.range'_succ, List.flatMap_cons, nodeRules, List.append_assoc,
      checkNodes]
    refine (checks_keys fun key member fault => ?_).bind fun _ _ =>
      .ite (fun fault => ?_) fun _ => ?_
    · simp [Breaks, here, member, Dict.contains, Option.isSome_iff_ne_none]
    · simp [Breaks, here, before, same]
    · have later := ih (earlier ++ [node]) (by simp [split]) (node.id :: seen)
        (by simp [same, or_comm])
      rwa [List.length_append, List.length_singleton] at later

theorem checks_edges (earlier rest : List Edge) (split : flow.edges = earlier ++ rest)
    (seen : List String) (same : ∀ id, id ∈ seen ↔ id ∈ earlier.map (·.id)) :
    Checks flow.Breaks ((List.range' earlier.length rest.length).flatMap edgeRules)
      (checkEdges (flow.nodes.map (·.id)) seen rest) := by
  induction rest generalizing earlier seen with
  | nil => exact .nil ()
  | cons edge rest ih =>
    have here : flow.edges[earlier.length]? = some edge := by simp [split]
    have before : flow.edges.take earlier.length = earlier := by simp [split]
    rw [List.length_cons, List.range'_succ, List.flatMap_cons, edgeRules, List.append_assoc,
      checkEdges]
    refine (checks_keys fun key member fault => ?_).bind fun _ _ => .ite (fun fault => ?_) fun _ =>
      .ite (fun fault => ?_) fun _ => .ite (fun fault => ?_) fun _ => ?_
    · simp [Breaks, here, member, Dict.contains, Option.isSome_iff_ne_none]
    · simp [Breaks, here, before, same]
    · simp [Breaks, here]
    · simp [Breaks, here]
    · have later := ih (earlier ++ [edge]) (by simp [split]) (edge.id :: seen)
        (by simp [same, or_comm])
      rwa [List.length_append, List.length_singleton] at later

section Exits
variable {node : Node} {place : Nat} (here : flow.nodes[place]? = some node)
  (earlier rest : List Edge) (split : flow.leaving node = earlier ++ rest)
include here split

theorem checks_labels (branching : node.kind = .assertion) (seen : List Bool)
    (same : ∀ label, label ∈ seen ↔ some label ∈ earlier.map (·.label)) :
    Checks flow.Breaks
      ((List.range' earlier.length rest.length).flatMap fun newer =>
        [.branchLabel place newer, .branchOnce place newer])
      (checkLabels node.id seen rest) := by
  induction rest generalizing earlier seen with
  | nil => exact .nil ()
  | cons edge rest ih =>
    have there : (flow.leaving node)[earlier.length]? = some edge := by simp [split]
    have before : (flow.leaving node).take earlier.length = earlier := by simp [split]
    rw [List.length_cons, List.range'_succ, List.flatMap_cons, checkLabels]
    cases found : edge.label with
    | none => exact .broken (by simp [Breaks, here, there, branching, found])
    | some label =>
      refine .kept (by simp [Breaks, here, there, found]) (.ite (fun fault => ?_) fun _ => ?_)
      · simp [Breaks, here, there, before, branching, found, same, -Bool.exists_bool,
          -List.map_take]
      · have later := ih (earlier ++ [edge]) (by simp [split]) (label :: seen)
          (by simp [same, found, or_comm])
        rwa [List.length_append, List.length_singleton] at later

theorem checks_plain (plain : node.kind ≠ .assertion) :
    Checks flow.Breaks ((List.range' earlier.length rest.length).map (.plainLabel place))
      (match rest.find? (·.label.isSome) with
        | some edge => .error (.unexpectedLabel edge.id node.id node.kind)
        | none => .ok () : Except GraphFault Unit) := by
  induction rest generalizing earlier with
  | nil => exact .nil ()
  | cons edge rest ih =>
    have there : (flow.leaving node)[earlier.length]? = some edge := by simp [split]
    rw [List.length_cons, List.range'_succ, List.map_cons, List.find?_cons]
    cases found : edge.label with
    | some label => exact .broken (by simp [Breaks, here, there, plain, found])
    | none =>
      have later := ih (earlier ++ [edge]) (by simp [split])
      rw [List.length_append, List.length_singleton] at later
      exact .kept (by simp [Breaks, here, there, found]) later

end Exits

theorem checks_leaving {numbered : Node × Nat} (member : numbered ∈ flow.nodes.zipIdx) :
    Checks flow.Breaks (flow.exitRules numbered) (flow.checkLeaving numbered.1) := by
  obtain ⟨node, place⟩ := numbered
  have here : flow.nodes[place]? = some node := List.mem_zipIdx_iff_getElem?.mp member
  rw [exitRules, checkLeaving]
  dsimp only
  rw [List.range_eq_range']
  by_cases branching : node.kind = .assertion
  · rw [if_pos branching, if_pos branching]
    exact checks_labels here [] _ rfl branching [] (by simp)
  · rw [if_neg branching, if_neg branching]
    refine .ite (fun fault => ?_) fun _ => ?_
    · simp [Breaks, here, branching, leaving]
    · exact checks_plain here [] _ rfl branching

theorem entries_eq_filter (flow : Flow) :
    flow.entries = flow.nodes.filter fun node => flow.Unentered node := by
  refine List.filter_congr fun node _ => ?_
  rw [Bool.eq_iff_iff, List.all_eq_true, decide_eq_true_iff, Unentered]
  exact forall₂_congr fun edge _ => decide_eq_true_iff

theorem checks_entry (flow : Flow) : Checks flow.Breaks [.someEntry, .oneEntry] flow.entry := by
  have none (free : flow.entries = []) : ∀ node ∈ flow.nodes, ¬ flow.Unentered node := by
    intro node member unentered
    have inside := (mem_entries_iff flow node).mpr ⟨member, unentered⟩
    rw [free] at inside
    cases inside
  have some {node : Node} {others : List Node} (found : flow.entries = node :: others)
      (fault : GraphFault) : ¬ flow.Breaks .someEntry fault := by
    rintro ⟨entered, -⟩
    obtain ⟨member, unentered⟩ := (mem_entries_iff flow node).mp (by simp [found])
    exact entered node member unentered
  rw [entry]
  rcases found : flow.entries with _ | ⟨node, _ | ⟨second, others⟩⟩
  · exact .broken ⟨none found, rfl⟩
  · refine .kept (some found) (.kept ?_ (.nil node))
    rintro fault ⟨several, -⟩
    rw [← entries_eq_filter, found] at several
    exact absurd several (by simp)
  · refine .kept (some found) (.broken ?_)
    rw [Breaks, ← entries_eq_filter, found]
    exact ⟨by simp, rfl⟩

end Phases

end Flow

namespace Graph

theorem checks_build (flow : Flow) : Checks flow.Breaks flow.rules (build flow) := by
  unfold build Flow.rules
  rw [List.range_eq_range', List.range_eq_range']
  refine .ite (fun fault => by simp [Flow.Breaks]) fun _ => ?_
  refine (Flow.checks_nodes [] _ rfl [] (by simp)).bind fun _ _ => ?_
  refine (Flow.checks_edges [] _ rfl [] (by simp)).bind fun _ known => ?_
  refine (Checks.forM fun _ member => Flow.checks_leaving member).bind fun _ _ => ?_
  refine (Flow.checks_entry flow).bind fun entry _ => ?_
  refine .ite (fun fault => ?_) fun _ => .nil _
  have ends := ((Flow.checkEdges_iff _ _ _).mp known).2.2.2
  rw [Flow.hasPlainCycle_iff flow fun edge member => (ends edge member).2]
  rfl

end Graph

theorem two_le_count {α β : Type} [BEq β] [LawfulBEq β] {key : α → β} {items : List α}
    {place : Nat} {item : α} (here : item ∈ items[place]?)
    (earlier : key item ∈ (items.take place).map key) :
    2 ≤ (items.map key).count (key item) := by
  obtain ⟨bound, same⟩ := List.getElem?_eq_some_iff.mp here
  have split : items = items.take place ++ item :: items.drop (place + 1) := by
    rw [← same, ← List.drop_eq_getElem_cons bound, List.take_append_drop]
  have before := List.count_pos_iff.mpr earlier
  rw [split, List.map_append, List.count_append, List.map_cons, List.count_cons_self]
  omega

/-- What a fault says about a flow. -/
def GraphFault.Describes (flow : Flow) : GraphFault → Prop
  | .empty => flow.nodes = []
  | .reservedKey owner key =>
    (key ∈ reservedNodeKeys ∧
      ∃ node ∈ flow.nodes, node.id = owner ∧ node.metadata.get? key ≠ none) ∨
    key ∈ reservedEdgeKeys ∧
      ∃ edge ∈ flow.edges, edge.id = owner ∧ edge.metadata.get? key ≠ none
  | .duplicateNode id => 2 ≤ (flow.nodes.map (·.id)).count id
  | .duplicateEdge id => 2 ≤ (flow.edges.map (·.id)).count id
  | .unknownNode edge node => node ∉ flow.nodes.map (·.id) ∧
    ∃ named ∈ flow.edges, named.id = edge ∧ (named.source = node ∨ named.target = node)
  | .tooManyEdges id kind count => 1 < count ∧ (flow.edgesFrom id).length = count ∧
    kind ≠ .assertion ∧ ∃ node ∈ flow.nodes, node.id = id ∧ node.kind = kind
  | .unexpectedLabel edge id kind =>
    (∃ named ∈ flow.edgesFrom id, named.id = edge ∧ named.label ≠ none) ∧
    kind ≠ .assertion ∧ ∃ node ∈ flow.nodes, node.id = id ∧ node.kind = kind
  | .missingLabel edge id =>
    (∃ named ∈ flow.edgesFrom id, named.id = edge ∧ named.label = none) ∧
    ∃ node ∈ flow.nodes, node.id = id ∧ node.kind = .assertion
  | .duplicateLabel id label => 2 ≤ ((flow.edgesFrom id).map (·.label)).count (some label) ∧
    ∃ node ∈ flow.nodes, node.id = id ∧ node.kind = .assertion
  | .noEntry => ∀ node ∈ flow.nodes, ∃ edge ∈ flow.edges, edge.target = node.id
  | .severalEntries ids => 1 < ids.length ∧
    ids = (flow.nodes.filter fun node => flow.Unentered node).map (·.id)
  | .cycle => ∃ id, TransGen flow.PlainLeads id id

/-- A fault is about the nodes and edges that break the rule. -/
theorem Flow.Breaks.describes {flow : Flow} {rule : Rule} {fault : GraphFault}
    (isBroken : flow.Breaks rule fault) : fault.Describes flow := by
  have leaves {node : Node} {edge : Edge} {newer : Nat}
      (there : edge ∈ (flow.leaving node)[newer]?) : edge ∈ flow.edgesFrom node.id :=
    List.mem_reverse.mp (List.mem_of_getElem? there)
  cases rule with
  | nonempty =>
    obtain ⟨none, rfl⟩ := isBroken
    exact none
  | nodeKey place key =>
    obtain ⟨node, here, ⟨reserved, bound⟩, rfl⟩ := isBroken
    exact .inl ⟨reserved, node, List.mem_of_getElem? here, rfl, bound⟩
  | edgeKey place key =>
    obtain ⟨edge, here, ⟨reserved, bound⟩, rfl⟩ := isBroken
    exact .inr ⟨reserved, edge, List.mem_of_getElem? here, rfl, bound⟩
  | nodeId place =>
    obtain ⟨node, here, earlier, rfl⟩ := isBroken
    exact two_le_count here earlier
  | edgeId place =>
    obtain ⟨edge, here, earlier, rfl⟩ := isBroken
    exact two_le_count here earlier
  | source place =>
    obtain ⟨edge, here, unknown, rfl⟩ := isBroken
    exact ⟨unknown, edge, List.mem_of_getElem? here, rfl, .inl rfl⟩
  | target place =>
    obtain ⟨edge, here, unknown, rfl⟩ := isBroken
    exact ⟨unknown, edge, List.mem_of_getElem? here, rfl, .inr rfl⟩
  | branchLabel place newer =>
    obtain ⟨node, here, edge, there, ⟨branching, unlabelled⟩, rfl⟩ := isBroken
    exact ⟨⟨edge, leaves there, rfl, unlabelled⟩, node, List.mem_of_getElem? here, rfl, branching⟩
  | branchOnce place newer =>
    obtain ⟨node, here, edge, there, label, labelled, ⟨branching, earlier⟩, rfl⟩ := isBroken
    refine ⟨?_, node, List.mem_of_getElem? here, rfl, branching⟩
    rw [← Option.mem_def.mp labelled] at earlier ⊢
    have twice := two_le_count there earlier
    rwa [Flow.leaving, List.map_reverse, List.count_reverse] at twice
  | plainCount place =>
    obtain ⟨node, here, ⟨plain, several⟩, rfl⟩ := isBroken
    exact ⟨several, List.length_reverse.symm, plain, node, List.mem_of_getElem? here, rfl, rfl⟩
  | plainLabel place newer =>
    obtain ⟨node, here, edge, there, ⟨plain, labelled⟩, rfl⟩ := isBroken
    exact ⟨⟨edge, leaves there, rfl, labelled⟩, plain, node, List.mem_of_getElem? here, rfl, rfl⟩
  | someEntry =>
    obtain ⟨entered, rfl⟩ := isBroken
    intro node member
    simpa [Flow.Unentered] using entered node member
  | oneEntry =>
    obtain ⟨several, rfl⟩ := isBroken
    exact ⟨by rwa [List.length_map], rfl⟩
  | acyclic =>
    obtain ⟨cycle, rfl⟩ := isBroken
    exact cycle

namespace Graph

/-- A flow is refused for the first rule that it breaks, and the fault describes the flow; the same
holds of a graph with numbers, with any library. -/
theorem build_refuses (library : Adjacency Node Edge) (flow : Flow) (fault : GraphFault) :
    (build flow = .error fault ↔ FirstBroken flow.Breaks flow.rules fault) ∧
      (Indexed.build library flow = .error fault ↔ FirstBroken flow.Breaks flow.rules fault) ∧
      (build flow = .error fault → fault.Describes flow) := by
  have first := (checks_build flow).eq_error_iff Flow.breaks_functional fault
  refine ⟨first, ?_, fun refused => ?_⟩
  · rw [(Indexed.build_agree library flow).eq_error_iff fault, first]
  · obtain ⟨_, rule, _, -, isBroken, -⟩ := first.mp refused
    exact isBroken.describes

end Graph

/-- A flow with a reserved key, a repeated id, an unknown node and an assertion without labels. -/
def Flow.tangled : Flow where
  nodes :=
    [⟨"ask", .delay 5, {}⟩, ⟨"check", .assertion ⟨"${state}", .equals, "ready"⟩, {}⟩,
      ⟨"ask", .delay 5, Dict.ofList [("data", .null), ("type", .null)]⟩]
  edges := [⟨"e0", "check", "nowhere", none, {}⟩, ⟨"e0", "ask", "check", some true, {}⟩]

namespace Graph

theorem tangled_refused :
    build .tangled = .error (.reservedKey "ask" "type") ∧
      FirstBroken Flow.tangled.Breaks Flow.tangled.rules (.reservedKey "ask" "type") ∧
      ∃ node ∈ Flow.tangled.nodes, node.id = "ask" ∧ node.metadata.get? "type" ≠ none := by
  have refused : build .tangled = .error (.reservedKey "ask" "type") := rfl
  obtain ⟨first, -, describes⟩ :=
    build_refuses (Digraph.adjacency Node Edge) .tangled (.reservedKey "ask" "type")
  refine ⟨refused, first.mp refused, ?_⟩
  rcases describes refused with ⟨-, owner⟩ | ⟨reserved, -⟩
  · exact owner
  · exact absurd reserved (by decide)

end Graph

end Scenario
