import Mathlib.Data.List.Basic
/-!
Directed graphs by numbers.

Vertices and arcs are numbered as they are added, and the arcs at a vertex are listed with the newest
first. `Adjacency` says what is relied on of such graphs, however they are kept, and `Digraph` keeps
them: a vertex knows the last arc that leaves it and the last one that enters it, and an arc knows the
one before it at either of its ends, so that the arcs at a vertex form a chain.
-/
namespace Scenario

inductive Direction where
  | outgoing
  | incoming
deriving DecidableEq

structure Arc (β : Type) where
  weight : β
  /-- The vertex that the arc leaves, and the one that it enters. -/
  ends : Direction → Nat

namespace Arc
variable {β : Type}

/-- The arcs of a list at a vertex with their numbers, the newest first. -/
def newest (direction : Direction) (arcs : List (Arc β)) (vertex : Nat) : List (Arc β × Nat) :=
  (arcs.zipIdx.filter fun (arc, _) => arc.ends direction = vertex).reverse

theorem length_newest_le (direction : Direction) (arcs : List (Arc β)) (vertex : Nat) :
    (newest direction arcs vertex).length ≤ arcs.length := by
  rw [newest, List.length_reverse, ← List.length_zipIdx (l := arcs)]
  exact List.length_filter_le ..

theorem newest_append (direction : Direction) (arcs : List (Arc β)) (arc : Arc β) (vertex : Nat) :
    newest direction (arcs ++ [arc]) vertex =
      if arc.ends direction = vertex then (arc, arcs.length) :: newest direction arcs vertex
      else newest direction arcs vertex := by
  rw [newest, newest, List.zipIdx_append, List.filter_append, List.reverse_append]
  by_cases same : arc.ends direction = vertex <;> simp [same]

theorem newest_eq_nil {direction : Direction} {arcs : List (Arc β)} {vertex : Nat}
    (free : ∀ arc ∈ arcs, arc.ends direction ≠ vertex) : newest direction arcs vertex = [] := by
  rw [newest, List.reverse_eq_nil_iff, List.filter_eq_nil_iff]
  intro numbered member same
  have here := List.mem_zipIdx_iff_getElem?.mp member
  exact free numbered.1 (List.mem_of_getElem? here) (of_decide_eq_true same)

/-- Without their numbers, the arcs at a vertex are those of the list in reverse. -/
theorem map_newest (direction : Direction) (arcs : List (Arc β)) (vertex : Nat) :
    (newest direction arcs vertex).map Prod.fst =
      (arcs.filter fun arc => arc.ends direction = vertex).reverse := by
  have plain : arcs.filter (fun arc => decide (arc.ends direction = vertex)) =
      (arcs.zipIdx.filter fun numbered => decide (numbered.1.ends direction = vertex)).map
        Prod.fst := by
    conv_lhs => rw [← List.zipIdx_map_fst 0 arcs, List.filter_map]
    rfl
  rw [newest, plain, List.map_reverse]

theorem numbers_ascending (direction : Direction) (arcs : List (Arc β)) (vertex : Nat) :
    (newest direction arcs vertex).reverse.Pairwise fun a b => a.2 < b.2 := by
  have all : arcs.zipIdx.Pairwise fun a b => a.2 < b.2 := by
    rw [← List.pairwise_map, List.zipIdx_map_snd]
    exact List.pairwise_lt_range'
  rw [newest, List.reverse_reverse]
  exact all.filter _

/-- Sorted by their numbers, the arcs at a vertex are in the order in which they were added. -/
theorem sort_newest (direction : Direction) (arcs : List (Arc β)) (vertex : Nat) :
    ((newest direction arcs vertex).mergeSort fun a b => decide (a.2 ≤ b.2)) =
      (newest direction arcs vertex).reverse := by
  have sorted : ((newest direction arcs vertex).mergeSort fun a b => decide (a.2 ≤ b.2)).Pairwise
      fun a b => decide (a.2 ≤ b.2) = true := by
    apply List.pairwise_mergeSort
    · intro a b c first second
      exact decide_eq_true (Nat.le_trans (of_decide_eq_true first) (of_decide_eq_true second))
    · intro a b
      simpa using Nat.le_total a.2 b.2
  have numbered {a : Arc β × Nat} (member : a ∈ newest direction arcs vertex) :
      arcs[a.2]? = some a.1 :=
    List.mem_zipIdx_iff_getElem?.mp (List.mem_filter.mp (List.mem_reverse.mp member)).1
  -- Numbers tell arcs apart, so there is only one way to sort them.
  refine ((List.mergeSort_perm _ _).trans (List.reverse_perm _).symm).eq_of_pairwise ?_ sorted ?_
  · intro a b first second le ge
    have same : a.2 = b.2 :=
      Nat.le_antisymm (of_decide_eq_true le) (of_decide_eq_true ge)
    have here := numbered ((List.mergeSort_perm _ _).mem_iff.mp first)
    rw [same, numbered (List.mem_reverse.mp second)] at here
    exact Prod.ext (Option.some.inj here).symm same
  · exact (numbers_ascending direction arcs vertex).imp fun before =>
      decide_eq_true (Nat.le_of_lt before)

end Arc

/-- A way to keep directed graphs by numbers. -/
structure Adjacency (α β : Type) where
  Graph : Type
  empty : Graph
  addVertex : Graph → α → Graph
  addArc : Graph → Arc β → Graph
  /-- What the vertices bear, in the order of their numbers. -/
  vertices : Graph → List α
  /-- The arcs in the order of their numbers. -/
  arcs : Graph → List (Arc β)
  arcsAt : Graph → Direction → Nat → List (Arc β × Nat)
  vertices_empty : vertices empty = []
  arcs_empty : arcs empty = []
  vertices_addVertex (graph : Graph) (weight : α) :
    vertices (addVertex graph weight) = vertices graph ++ [weight]
  arcs_addVertex (graph : Graph) (weight : α) : arcs (addVertex graph weight) = arcs graph
  vertices_addArc (graph : Graph) (arc : Arc β)
    (known : ∀ direction, arc.ends direction < (vertices graph).length) :
    vertices (addArc graph arc) = vertices graph
  arcs_addArc (graph : Graph) (arc : Arc β)
    (known : ∀ direction, arc.ends direction < (vertices graph).length) :
    arcs (addArc graph arc) = arcs graph ++ [arc]
  arcsAt_eq (graph : Graph) (direction : Direction) (vertex : Nat)
    (bound : vertex < (vertices graph).length) :
    arcsAt graph direction vertex = Arc.newest direction (arcs graph) vertex

structure Vertex (α : Type) where
  weight : α
  /-- The newest arc that leaves the vertex, and the newest that enters it. -/
  first : Direction → Option Nat

structure Link (β : Type) extends Arc β where
  next : Direction → Option Nat

structure Digraph (α β : Type) where
  vertices : List (Vertex α)
  links : List (Link β)

namespace Digraph

variable {α β : Type}

def empty : Digraph α β := ⟨[], []⟩

def addVertex (graph : Digraph α β) (weight : α) : Digraph α β :=
  { graph with vertices := graph.vertices ++ [⟨weight, fun _ => none⟩] }

def first (graph : Digraph α β) (direction : Direction) (vertex : Nat) : Option Nat :=
  graph.vertices[vertex]?.bind (·.first direction)

/-- The new arc becomes the first at both of its ends. -/
def addArc (graph : Digraph α β) (arc : Arc β) : Digraph α β where
  vertices := graph.vertices.mapIdx fun number vertex =>
    { vertex with first := fun direction =>
        if number = arc.ends direction then some graph.links.length else vertex.first direction }
  links := graph.links ++ [⟨arc, fun direction => graph.first direction (arc.ends direction)⟩]

def weights (graph : Digraph α β) : List α := graph.vertices.map (·.weight)

def arcs (graph : Digraph α β) : List (Arc β) := graph.links.map (·.toArc)

/-- The arcs of a chain, each with its number, as far as some steps lead. -/
def follow (direction : Direction) (links : List (Link β)) :
    (steps : Nat) → Option Nat → List (Arc β × Nat)
  | 0, _ | _, none => []
  | steps + 1, some number =>
    match links[number]? with
    | some link => (link.toArc, number) :: follow direction links steps (link.next direction)
    | none => []

/-- The arcs at a vertex with their numbers. No chain is longer than the list of all arcs. -/
def arcsAt (graph : Digraph α β) (direction : Direction) (vertex : Nat) : List (Arc β × Nat) :=
  follow direction graph.links graph.links.length (graph.first direction vertex)

/-- A chain of arcs from one on. -/
inductive Chain (direction : Direction) (links : List (Link β)) :
    Option Nat → List (Arc β × Nat) → Prop where
  | nil : Chain direction links none []
  | cons {link : Link β} {number : Nat} {rest : List (Arc β × Nat)}
    (here : links[number]? = some link) (later : Chain direction links (link.next direction) rest) :
    Chain direction links (some number) ((link.toArc, number) :: rest)

section Chains

variable {direction : Direction} {links : List (Link β)} {start : Option Nat}
  {chain : List (Arc β × Nat)}

theorem Chain.append (linked : Chain direction links start chain) (later : List (Link β)) :
    Chain direction (links ++ later) start chain := by
  induction linked with
  | nil => exact .nil
  | cons here _ ih =>
    obtain ⟨bound, -⟩ := List.getElem?_eq_some_iff.mp here
    exact .cons (by rw [List.getElem?_append_left bound, here]) ih

theorem Chain.follow_eq (linked : Chain direction links start chain) {steps : Nat}
    (enough : chain.length ≤ steps) : follow direction links steps start = chain := by
  induction linked generalizing steps with
  | nil => cases steps <;> rfl
  | cons here _ ih =>
    cases steps with
    | zero => simp at enough
    | succ steps =>
      rw [follow, here]
      dsimp only
      rw [ih (by simpa using enough)]

end Chains

/-- The arcs end at vertices, and the chains are as their ends say. -/
structure Linked (graph : Digraph α β) : Prop where
  known : ∀ arc ∈ graph.arcs, ∀ direction, arc.ends direction < graph.vertices.length
  chains : ∀ direction vertex, vertex < graph.vertices.length →
    Chain direction graph.links (graph.first direction vertex)
      (Arc.newest direction graph.arcs vertex)

variable {graph : Digraph α β}

theorem linked_empty : (empty : Digraph α β).Linked where
  known := fun _ member => absurd member List.not_mem_nil
  chains := fun _ _ bound => absurd bound (Nat.not_lt_zero _)

theorem length_addVertex (graph : Digraph α β) (weight : α) :
    (graph.addVertex weight).vertices.length = graph.vertices.length + 1 :=
  List.length_append

theorem first_addVertex (graph : Digraph α β) (weight : α) (direction : Direction) {vertex : Nat}
    (bound : vertex < graph.vertices.length) :
    (graph.addVertex weight).first direction vertex = graph.first direction vertex := by
  rw [first, first, addVertex]
  dsimp only
  rw [List.getElem?_append_left bound]

theorem Linked.addVertex (linked : graph.Linked) (weight : α) :
    (graph.addVertex weight).Linked where
  known := by
    intro arc member direction
    rw [length_addVertex]
    exact Nat.lt_succ_of_lt (linked.known arc member direction)
  chains := by
    intro direction vertex bound
    rw [length_addVertex, Nat.lt_succ_iff_lt_or_eq] at bound
    rcases bound with old | rfl
    · rw [first_addVertex graph weight direction old]
      exact linked.chains direction vertex old
    -- No arc can end at the new vertex yet.
    · have none : (graph.addVertex weight).first direction graph.vertices.length = none := by
        rw [first, Digraph.addVertex]
        dsimp only
        rw [List.getElem?_concat_length]
        rfl
      have free : Arc.newest direction (graph.addVertex weight).arcs graph.vertices.length = [] :=
        Arc.newest_eq_nil fun arc member =>
          Nat.ne_of_lt (linked.known arc member direction)
      rw [none, free]
      exact .nil

theorem first_addArc {vertex : Nat} (bound : vertex < graph.vertices.length) (arc : Arc β)
    (direction : Direction) :
    (graph.addArc arc).first direction vertex =
      if vertex = arc.ends direction then some graph.links.length
      else graph.first direction vertex := by
  rw [first, first, addArc]
  dsimp only
  rw [List.getElem?_mapIdx, List.getElem?_eq_getElem bound]
  rfl

theorem arcs_addArc (graph : Digraph α β) (arc : Arc β) :
    (graph.addArc arc).arcs = graph.arcs ++ [arc] := by
  rw [arcs, addArc, List.map_append]
  rfl

theorem weights_addArc (graph : Digraph α β) (arc : Arc β) :
    (graph.addArc arc).weights = graph.weights := by
  apply List.ext_getElem?
  intro number
  rw [weights, weights, addArc, List.getElem?_map, List.getElem?_mapIdx, List.getElem?_map,
    Option.map_map]
  rfl

theorem Linked.addArc (linked : graph.Linked) {arc : Arc β}
    (known : ∀ direction, arc.ends direction < graph.vertices.length) :
    (graph.addArc arc).Linked where
  known := by
    intro other member
    rw [Digraph.addArc, List.length_mapIdx]
    rw [arcs_addArc] at member
    rcases List.mem_append.mp member with old | new
    · exact linked.known other old
    · rwa [List.mem_singleton.mp new]
  chains := by
    intro direction vertex bound
    have bound : vertex < graph.vertices.length := by
      rwa [Digraph.addArc, List.length_mapIdx] at bound
    have older (vertex : Nat) (bound : vertex < graph.vertices.length) :=
      (linked.chains direction vertex bound).append
        [⟨arc, fun direction => graph.first direction (arc.ends direction)⟩]
    -- At its ends the new arc stands in front of the chain; elsewhere the chain is the old one.
    rw [first_addArc bound, arcs_addArc, Arc.newest_append, arcs, List.length_map]
    by_cases here : vertex = arc.ends direction
    · subst here
      rw [if_pos rfl, if_pos rfl]
      exact .cons List.getElem?_concat_length (older _ (known direction))
    · rw [if_neg here, if_neg (Ne.symm here)]
      exact older vertex bound

/-- The chains hold the arcs at each vertex. -/
theorem Linked.arcsAt_eq (linked : graph.Linked) {vertex : Nat}
    (bound : vertex < graph.vertices.length) (direction : Direction) :
    graph.arcsAt direction vertex = Arc.newest direction graph.arcs vertex := by
  have length : graph.arcs.length = graph.links.length := List.length_map _
  refine (linked.chains direction vertex bound).follow_eq ?_
  rw [← length]
  exact Arc.length_newest_le direction graph.arcs vertex

/-- Graphs that are linked; an arc without its vertices is not added. -/
def adjacency (α β : Type) : Adjacency α β where
  Graph := { graph : Digraph α β // graph.Linked }
  empty := ⟨empty, linked_empty⟩
  addVertex graph weight := ⟨graph.1.addVertex weight, graph.2.addVertex weight⟩
  addArc graph arc :=
    if known : arc.ends .outgoing < graph.1.vertices.length ∧
        arc.ends .incoming < graph.1.vertices.length then
      ⟨graph.1.addArc arc, graph.2.addArc fun
        | .outgoing => known.1
        | .incoming => known.2⟩
    else graph
  vertices graph := graph.1.weights
  arcs graph := graph.1.arcs
  arcsAt graph := graph.1.arcsAt
  vertices_empty := rfl
  arcs_empty := rfl
  vertices_addVertex graph weight := List.map_append
  arcs_addVertex graph weight := rfl
  vertices_addArc graph arc known := by
    rw [weights, List.length_map] at known
    rw [dif_pos ⟨known .outgoing, known .incoming⟩]
    exact weights_addArc graph.1 arc
  arcs_addArc graph arc known := by
    rw [weights, List.length_map] at known
    rw [dif_pos ⟨known .outgoing, known .incoming⟩]
    exact arcs_addArc graph.1 arc
  arcsAt_eq graph direction vertex bound := by
    rw [weights, List.length_map] at bound
    exact graph.2.arcsAt_eq bound direction

end Digraph

end Scenario
