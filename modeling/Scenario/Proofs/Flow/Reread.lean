import Scenario.Proofs.Flow.Saving
/-!
Flows as they are read again.

Whatever doubles stand in a flow, its text is read as a flow that differs in its doubles alone. So
a flow that makes a graph still makes one when it is read again.
-/
namespace Scenario

open Json (Value)

namespace Json.Value

variable (f : Number.Double → Number.Double)

theorem mapDoubles_ofFields (fields : List (String × Value)) :
    (ofFields fields).mapDoubles f =
      ofFields (fields.map fun field => (field.1, field.2.mapDoubles f)) := by
  rw [ofFields, mapDoubles_object, Entries.map_ofList]
  rfl

theorem mapDoubles_ofDict (d : Dict Value) :
    (ofDict d).mapDoubles f = ofDict (d.map (mapDoubles f)) :=
  mapDoubles_object f d.entries

theorem Fits.mapDoubles_eq {depth : Nat} {v : Value} (fits : v.Fits (fun _ => False) depth) :
    v.mapDoubles f = v :=
  mapDoubles_of_fixed fun d member => (fits.doubles d member).elim

end Json.Value

variable (f : Number.Double → Number.Double)

def Step.mapDoubles : Step → Step
  | .assignment data => .assignment { data with value := data.value.mapDoubles f }
  | .output template => .output (template.mapDoubles f)
  | step => step

def Node.mapDoubles (node : Node) : Node where
  id := node.id
  step := node.step.mapDoubles f
  metadata := node.metadata.map (Value.mapDoubles f)

def Edge.mapDoubles (edge : Edge) : Edge :=
  { edge with metadata := edge.metadata.map (Value.mapDoubles f) }

def Flow.mapDoubles (flow : Flow) : Flow where
  nodes := flow.nodes.map (Node.mapDoubles f)
  edges := flow.edges.map (Edge.mapDoubles f)

section Documents

theorem Step.encode_mapDoubles (step : Step) :
    (step.mapDoubles f).encode = step.encode.mapDoubles f := by
  cases step with
  | request data =>
    have fits : data.encode.Fits (fun _ => False) 2 := data.fits_encode
    exact (fits.mapDoubles_eq f).symm
  | auth data =>
    have fits : data.encode.Fits (fun _ => False) 1 := data.fits_encode
    exact (fits.mapDoubles_eq f).symm
  | assertion data =>
    simp only [encode, Assertion.encode, Value.mapDoubles_ofFields]
    rfl
  | delay duration =>
    simp only [encode, encodeDelay, Value.mapDoubles_ofFields]
    rfl
  | assignment data =>
    simp only [encode, Assignment.encode, Value.mapDoubles_ofFields]
    rfl
  | output => rfl

theorem Node.kind_mapDoubles (node : Node) : (node.mapDoubles f).kind = node.kind := by
  obtain ⟨id, step, metadata⟩ := node
  cases step <;> rfl

theorem Node.fields_mapDoubles (node : Node) :
    (node.mapDoubles f).fields = node.fields.map (Value.mapDoubles f) := by
  rw [fields, fields, Dict.map_insert, Dict.map_insert, Dict.map_insert, kind_mapDoubles,
    ← Step.encode_mapDoubles]
  rfl

theorem Edge.fields_mapDoubles (edge : Edge) :
    (edge.mapDoubles f).fields = edge.fields.map (Value.mapDoubles f) := by
  obtain ⟨id, source, target, label, metadata⟩ := edge
  cases label <;>
    simp only [fields, Dict.map_insert] <;>
    rfl

theorem Flow.document_mapDoubles (flow : Flow) :
    document (some (flow.mapDoubles f)) = (document (some flow)).mapDoubles f := by
  rw [document, document, Value.mapDoubles_ofFields]
  simp only [List.map_cons, List.map_nil, Value.mapDoubles_array, mapDoubles, List.map_map,
    Function.comp_def, Node.fields_mapDoubles, Edge.encode_eq, Edge.fields_mapDoubles,
    Value.mapDoubles_ofDict]

end Documents

section Graphs

variable {f} {flow : Flow}

theorem Dict.get?_eq_none_map {α β : Type} {g : α → β} {d : Dict α} {key : String} :
    (d.map g).get? key = none ↔ d.get? key = none := by
  rw [Dict.get?_map, Option.map_eq_none_iff]

theorem Flow.free_map {reserved : List String} {metadata : Metadata} {g : Value → Value} :
    Free reserved (metadata.map g) ↔ Free reserved metadata := by
  simp only [Free, Dict.get?_eq_none_map]

theorem Flow.edgesFrom_mapDoubles (id : String) :
    (flow.mapDoubles f).edgesFrom id = (flow.edgesFrom id).map (Edge.mapDoubles f) := by
  rw [edgesFrom, edgesFrom, mapDoubles, List.filter_map]
  rfl

theorem Flow.Storable.mapDoubles (storable : flow.Storable) : (flow.mapDoubles f).Storable := by
  constructor
  · simp only [Flow.mapDoubles, List.forall_mem_map]
    exact fun node member => free_map.mpr (storable.nodes node member)
  · simp only [Flow.mapDoubles, List.forall_mem_map]
    exact fun edge member => free_map.mpr (storable.edges edge member)

theorem Flow.Runnable.mapDoubles (runnable : flow.Runnable) : (flow.mapDoubles f).Runnable where
  nonempty := by simpa [Flow.mapDoubles] using runnable.nonempty
  nodeIds := by
    rw [Flow.mapDoubles, List.map_map]
    exact runnable.nodeIds
  edgeIds := by
    rw [Flow.mapDoubles, List.map_map]
    exact runnable.edgeIds
  sources := by
    simpa [Flow.mapDoubles, Edge.mapDoubles, Node.mapDoubles] using runnable.sources
  targets := by
    simpa [Flow.mapDoubles, Edge.mapDoubles, Node.mapDoubles] using runnable.targets
  nodeKeys := by
    simp only [Flow.mapDoubles, List.forall_mem_map]
    exact fun node member => free_map.mpr (runnable.nodeKeys node member)
  edgeKeys := by
    simp only [Flow.mapDoubles, List.forall_mem_map]
    exact fun edge member => free_map.mpr (runnable.edgeKeys edge member)
  branches := by
    simp only [Flow.mapDoubles, List.forall_mem_map, Node.kind_mapDoubles]
    intro node member branching
    obtain ⟨labelled, distinct⟩ := runnable.branches node member branching
    refine ⟨labelled, ?_⟩
    change (((flow.mapDoubles f).edgesFrom node.id).map (·.label)).Nodup
    rw [edgesFrom_mapDoubles, List.map_map]
    exact distinct
  plain := by
    simp only [Flow.mapDoubles, List.forall_mem_map, Node.kind_mapDoubles]
    intro node member plain
    obtain ⟨bare, few⟩ := runnable.plain node member plain
    refine ⟨bare, ?_⟩
    change ((flow.mapDoubles f).edgesFrom node.id).length ≤ 1
    rw [edgesFrom_mapDoubles, List.length_map]
    exact few
  entry := by
    obtain ⟨entry, ⟨member, unentered⟩, unique⟩ := runnable.entry
    refine ⟨entry.mapDoubles f, ⟨List.mem_map_of_mem member, ?_⟩, ?_⟩
    · simp only [Unentered, Flow.mapDoubles, List.forall_mem_map]
      exact unentered
    · rintro other ⟨present, free⟩
      obtain ⟨node, inside, rfl⟩ := List.mem_map.mp present
      simp only [Unentered, Flow.mapDoubles, List.forall_mem_map] at free
      rw [unique node ⟨inside, free⟩]
  acyclic := by
    rintro ⟨id, cycle⟩
    refine runnable.acyclic ⟨id, Relation.TransGen.mono ?_ _ _ cycle⟩
    rintro source target ⟨⟨_, present, same, plain⟩, _, member, leaves, enters⟩
    obtain ⟨node, inside, rfl⟩ := List.mem_map.mp present
    obtain ⟨edge, stands, rfl⟩ := List.mem_map.mp member
    rw [Node.kind_mapDoubles] at plain
    exact ⟨⟨node, inside, same, plain⟩, edge, stands, leaves, enters⟩

end Graphs

/-- The flow as which its text is read. -/
def Flow.reread (flow : Flow) : Flow := flow.mapDoubles Number.Double.reread

theorem Flow.document_reread (loaded : Option Flow) :
    document (loaded.map reread) = (document loaded).reread := by
  cases loaded with
  | none => rfl
  | some flow => exact flow.document_mapDoubles _

theorem Flow.storable_reread {loaded : Option Flow} (storable : ∀ flow ∈ loaded, flow.Storable) :
    ∀ flow ∈ loaded.map reread, flow.Storable := by
  intro flow member
  obtain ⟨original, present, rfl⟩ := Option.mem_map.mp member
  exact (storable original present).mapDoubles

/-- What is saved is read again as a flow that makes a graph if the saved one does. -/
theorem read_savedText {loaded : Option Flow} (storable : ∀ flow ∈ loaded, flow.Storable)
    (ordered : (Flow.document loaded).Ordered)
    (shallow : (Flow.document loaded).nesting ≤ Json.Parser.nestingLimit) :
    Registry.standard.read (Flow.savedText loaded) = .ok (loaded.map Flow.reread) := by
  have parsed : Json.parse (Flow.savedText loaded) = .ok (Flow.document loaded).reread :=
    Value.parse_pretty ordered shallow
  rw [Registry.read, Flow.savedText_not_blank, if_neg Bool.false_ne_true, parsed,
    ← Flow.document_reread]
  exact decode_document (Flow.storable_reread storable)

end Scenario
