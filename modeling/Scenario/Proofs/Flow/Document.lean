import Scenario.Flow.Document
import Scenario.Proofs.Flow.Step
import Scenario.Proofs.Graph.Runnable
import Scenario.Proofs.Json.Value
/-!
Flow documents and flows.

With a handler for every kind, a flow whose metadata has no reserved key can be written, and is
read back as it was. Every flow that was read has such metadata, and writing it keeps whatever
stood in its document beside the reserved keys.
-/
namespace Scenario

open Json (Value)

section Metadata

theorem get?_metadataOf (reserved : List String) (fields : List (String × Value)) (key : String) :
    (metadataOf reserved fields).get? key =
      if key ∈ reserved then none else Entries.get? fields.reverse key := by
  have filtered := Entries.get?_filter fields.reverse (fun k => decide (k ∉ reserved)) key
  rw [List.filter_reverse] at filtered
  rw [metadataOf, Dict.get?, Dict.ofList, Entries.get?_ofList, filtered]
  by_cases inside : key ∈ reserved <;> simp [inside]

theorem metadataOf_free (reserved : List String) (fields : List (String × Value)) :
    Flow.Free reserved (metadataOf reserved fields) := by
  intro key member
  rw [get?_metadataOf, if_pos member]

theorem metadataOf_insert {reserved : List String} {key : String} (member : key ∈ reserved)
    (value : Value) (metadata : Metadata) :
    metadataOf reserved (metadata.insert key value).entries =
      metadataOf reserved metadata.entries := by
  have dropped : decide (key ∉ reserved) = false := by simpa using member
  exact congrArg Dict.ofList
    (Entries.filter_insert (fun k => decide (k ∉ reserved)) dropped value metadata.entries)

theorem metadataOf_entries {reserved : List String} {metadata : Metadata}
    (free : Flow.Free reserved metadata) : metadataOf reserved metadata.entries = metadata := by
  have kept : metadata.entries.filter (fun field => field.1 ∉ reserved) = metadata.entries := by
    rw [List.filter_eq_self]
    intro entry member
    rw [decide_eq_true_eq]
    intro inside
    exact (Entries.get?_eq_none_iff metadata.entries entry.1).mp (free entry.1 inside) entry member
      rfl
  refine Dict.ext_entries ?_
  rw [metadataOf, kept]
  exact Entries.ofList_of_ascending metadata.ascending

end Metadata

theorem Kind.ofTag?_tag (kind : Kind) : Kind.ofTag? kind.tag = some kind := by
  cases kind <;> rfl

@[simp] theorem get?_insert (d : Metadata) (key : String) (value : Value) (other : String) :
    (d.insert key value).get? other = if key = other then some value else d.get? other :=
  Entries.get?_insert key value d.entries other

/-- What a node is written as by the handler of its own kind. -/
def Node.fields (node : Node) : Metadata :=
  ((node.metadata.insert "id" (.string node.id)).insert "type"
    (.string node.kind.tag)).insert "data" node.step.encode

theorem encodeNode_eq (node : Node) :
    Registry.standard.encodeNode node = .ok (.ofDict node.fields) := by
  have own : encodeBy node.kind node.step = .ok node.step.encode := if_pos rfl
  change node.encodeBy node.kind = .ok (.ofDict node.fields)
  rw [Node.encodeBy, own]
  rfl

theorem Node.get?_fields (node : Node) {key : String} (other : key ∉ reservedNodeKeys) :
    node.fields.get? key = node.metadata.get? key := by
  simp only [reservedNodeKeys, List.mem_cons, List.not_mem_nil, or_false, not_or] at other
  obtain ⟨notId, notType, notData⟩ := other
  simp [fields, Ne.symm notId, Ne.symm notType, Ne.symm notData]

theorem decodeNode_fields {node : Node} (free : Flow.Free reservedNodeKeys node.metadata) :
    Registry.standard.decodeNode (.ofDict node.fields) = .ok node := by
  have id : Entries.get? node.fields.entries "id" = some (.string node.id) := by
    change node.fields.get? "id" = _
    simp [Node.fields]
  have tag : Entries.get? node.fields.entries "type" = some (.string node.kind.tag) := by
    change node.fields.get? "type" = _
    simp [Node.fields]
  have data : Entries.get? node.fields.entries "data" = some node.step.encode := by
    change node.fields.get? "data" = _
    simp [Node.fields]
  have metadata : metadataOf reservedNodeKeys node.fields.entries = node.metadata := by
    rw [Node.fields, metadataOf_insert (by decide), metadataOf_insert (by decide),
      metadataOf_insert (by decide), metadataOf_entries free]
  -- The type decides which handler reads the data, and it is the one that wrote them.
  have step : Step.decode node.kind node.step.encode = .ok node.step := node.step.decode_encode
  have read : Node.decodeBy node.kind node.fields.entries = .ok node := by
    simp only [Node.decodeBy, id, data, Option.bind_some, Value.asString?, Option.getD_some, step,
      metadata]
  rw [Value.ofDict, Registry.decodeNode, tag]
  simp only [Option.bind_some, Value.asString?, Kind.ofTag?_tag]
  exact read

def Edge.fields (edge : Edge) : Metadata :=
  let ends := ((edge.metadata.insert "id" (.string edge.id)).insert "source"
    (.string edge.source)).insert "target" (.string edge.target)
  match edge.label with
  | some label => ends.insert "label" (.string (labelText label))
  | none => ends

theorem Edge.encode_eq (edge : Edge) : edge.encode = .ofDict edge.fields := rfl

theorem Edge.get?_fields (edge : Edge) {key : String} (other : key ∉ reservedEdgeKeys) :
    edge.fields.get? key = edge.metadata.get? key := by
  simp only [reservedEdgeKeys, List.mem_cons, List.not_mem_nil, or_false, not_or] at other
  obtain ⟨notId, notSource, notTarget, notLabel⟩ := other
  cases label : edge.label <;>
    simp [fields, label, Ne.symm notId, Ne.symm notSource, Ne.symm notTarget, Ne.symm notLabel]

theorem Edge.decodeLabel_fields {edge : Edge} (free : Flow.Free reservedEdgeKeys edge.metadata) :
    decodeLabel edge.id (edge.fields.get? "label") = .ok edge.label := by
  have absent : edge.metadata.get? "label" = none := free "label" (by decide)
  cases chosen : edge.label with
  | none => simp [fields, chosen, absent, decodeLabel]
  | some label =>
    have written : edge.fields.get? "label" = some (.string (labelText label)) := by
      simp [fields, chosen]
    rw [written]
    cases label <;> rfl

theorem Edge.decode_encode {edge : Edge} (free : Flow.Free reservedEdgeKeys edge.metadata) :
    Edge.decode edge.encode = .ok edge := by
  have id : Entries.get? edge.fields.entries "id" = some (.string edge.id) := by
    change edge.fields.get? "id" = _
    cases label : edge.label <;> simp [fields, label]
  have source : Entries.get? edge.fields.entries "source" = some (.string edge.source) := by
    change edge.fields.get? "source" = _
    cases label : edge.label <;> simp [fields, label]
  have target : Entries.get? edge.fields.entries "target" = some (.string edge.target) := by
    change edge.fields.get? "target" = _
    cases label : edge.label <;> simp [fields, label]
  have label : decodeLabel edge.id (Entries.get? edge.fields.entries "label") = .ok edge.label :=
    decodeLabel_fields free
  have metadata : metadataOf reservedEdgeKeys edge.fields.entries = edge.metadata := by
    cases chosen : edge.label with
    | none =>
      simp only [fields, chosen]
      rw [metadataOf_insert (by decide), metadataOf_insert (by decide),
        metadataOf_insert (by decide), metadataOf_entries free]
    | some label =>
      simp only [fields, chosen]
      rw [metadataOf_insert (by decide), metadataOf_insert (by decide),
        metadataOf_insert (by decide), metadataOf_insert (by decide), metadataOf_entries free]
  rw [encode_eq, Value.ofDict]
  simp only [Edge.decode, id, source, target, Option.bind_some, Value.asString?, bind, Except.bind,
    label, metadata]
  rfl

namespace Flow

/-- No node and no edge has a reserved key in its metadata. -/
structure Storable (flow : Flow) : Prop where
  nodes : ∀ node ∈ flow.nodes, Free reservedNodeKeys node.metadata
  edges : ∀ edge ∈ flow.edges, Free reservedEdgeKeys edge.metadata

/-- The document of a flow when every kind has its own handler. -/
def document : Option Flow → Value
  | none => .object []
  | some flow =>
    .ofFields [("nodes", .array (flow.nodes.map fun node => .ofDict node.fields)),
      ("edges", .array (flow.edges.map Edge.encode))]

end Flow

theorem encode_eq_document (loaded : Option Flow) :
    Registry.standard.encode loaded = .ok (Flow.document loaded) := by
  cases loaded with
  | none => rfl
  | some flow =>
    have nodes : flow.nodes.mapM Registry.standard.encodeNode =
        .ok (flow.nodes.map fun node => .ofDict node.fields) := by
      rw [Success.mapM_iff, List.forall₂_map_right_iff, List.forall₂_same]
      exact fun node _ => encodeNode_eq node
    rw [Registry.encode, nodes]
    rfl

theorem decode_of_found {fields : List (String × Value)} {entries : List Value} {flow : Flow}
    (found : Entries.get? fields "nodes" = some (.array entries))
    (nodes : entries.mapM Registry.standard.decodeNode = .ok flow.nodes)
    (edges : Registry.decodeEdges (Entries.get? fields "edges") = .ok flow.edges) :
    Registry.standard.decode (.object fields) = .ok (some flow) := by
  cases fields with
  | nil => cases found
  | cons head rest =>
    simp only [Registry.decode, found, Option.bind_some, Value.asArray?, nodes, edges]
    rfl

theorem decode_document {loaded : Option Flow} (storable : ∀ flow ∈ loaded, flow.Storable) :
    Registry.standard.decode (Flow.document loaded) = .ok loaded := by
  cases loaded with
  | none => rfl
  | some flow =>
    obtain ⟨nodesFree, edgesFree⟩ := storable flow rfl
    have nodes : (flow.nodes.map fun node => .ofDict node.fields).mapM
        Registry.standard.decodeNode = .ok flow.nodes := by
      rw [Success.mapM_iff, List.forall₂_map_left_iff, List.forall₂_same]
      exact fun node member => decodeNode_fields (nodesFree node member)
    have edges : (flow.edges.map Edge.encode).mapM Edge.decode = .ok flow.edges := by
      rw [Success.mapM_iff, List.forall₂_map_left_iff, List.forall₂_same]
      exact fun edge member => Edge.decode_encode (edgesFree edge member)
    refine decode_of_found (Entries.get?_ofList_eq_some rfl) nodes ?_
    rw [Entries.get?_ofList_eq_some rfl]
    exact edges

theorem get?_metadataOf_of_ascending {reserved : List String} {fields : List (String × Value)}
    (ascending : Entries.Ascending fields) {key : String} (other : key ∉ reserved) :
    (metadataOf reserved fields).get? key = Entries.get? fields key := by
  rw [get?_metadataOf, if_neg other, ← Entries.get?_ofList,
    Entries.ofList_of_ascending ascending]

theorem parts_of_decodeNode {entry : Value} {node : Node}
    (read : Registry.standard.decodeNode entry = .ok node) :
    ∃ fields, entry = .object fields ∧ node.metadata = metadataOf reservedNodeKeys fields ∧
      ∃ kind, Step.decode kind ((Entries.get? fields "data").getD .null) = .ok node.step := by
  cases entry with
  | object fields =>
    refine ⟨fields, rfl, ?_⟩
    unfold Registry.decodeNode at read
    cases tagged : (Entries.get? fields "type").bind Value.asString? with
    | none => simp [tagged] at read
    | some tag =>
      cases known : Kind.ofTag? tag with
      | none => simp [tagged, known] at read
      | some kind =>
        simp only [tagged, known] at read
        change Node.decodeBy kind fields = .ok node at read
        unfold Node.decodeBy at read
        cases named : (Entries.get? fields "id").bind Value.asString? with
        | none => simp [named] at read
        | some id =>
          cases data : Step.decode kind ((Entries.get? fields "data").getD .null) with
          | error e => simp [named, data] at read
          | ok step =>
            simp only [named, data] at read
            cases read
            exact ⟨rfl, kind, data⟩
  | null | bool | number | string | array => cases read

theorem metadata_of_decodeNode {entry : Value} {node : Node}
    (read : Registry.standard.decodeNode entry = .ok node) :
    ∃ fields, entry = .object fields ∧ node.metadata = metadataOf reservedNodeKeys fields := by
  obtain ⟨fields, same, metadata, -⟩ := parts_of_decodeNode read
  exact ⟨fields, same, metadata⟩

theorem metadata_of_decodeEdge {entry : Value} {edge : Edge} (read : Edge.decode entry = .ok edge) :
    ∃ fields, entry = .object fields ∧ edge.metadata = metadataOf reservedEdgeKeys fields := by
  cases entry with
  | object fields =>
    refine ⟨fields, rfl, ?_⟩
    unfold Edge.decode at read
    obtain ⟨id, -, read⟩ := Success.bind_iff.mp read
    obtain ⟨source, -, read⟩ := Success.bind_iff.mp read
    obtain ⟨target, -, read⟩ := Success.bind_iff.mp read
    obtain ⟨label, -, read⟩ := Success.bind_iff.mp read
    cases read
    rfl
  | null | bool | number | string | array => cases read

/-- The entries that stand under a name in an object; none for any other document. -/
def entriesOf (name : String) (document : Value) : List Value :=
  ((document.field? name).bind Value.asArray?).getD []

theorem entries_of_decode {document : Value} {flow : Flow}
    (read : Registry.standard.decode document = .ok (some flow)) :
    List.Forall₂ (fun entry node => Registry.standard.decodeNode entry = .ok node)
        (entriesOf "nodes" document) flow.nodes ∧
      List.Forall₂ (fun entry edge => Edge.decode entry = .ok edge)
        (entriesOf "edges" document) flow.edges := by
  unfold Registry.decode at read
  split at read
  · cases read
  · cases read
  · rename_i fields _
    cases found : (Entries.get? fields "nodes").bind Value.asArray? with
    | none => simp [found] at read
    | some entries =>
      simp only [found] at read
      obtain ⟨nodes, readNodes, read⟩ := Success.bind_iff.mp read
      obtain ⟨edges, readEdges, read⟩ := Success.bind_iff.mp read
      cases read
      refine ⟨?_, ?_⟩
      · simpa [entriesOf, Value.field?, found] using Success.mapM_iff.mp readNodes
      · unfold Registry.decodeEdges at readEdges
        split at readEdges
        · rename_i missing
          cases readEdges
          simp [entriesOf, Value.field?, missing]
        · rename_i missing
          cases readEdges
          simp [entriesOf, Value.field?, missing, Value.asArray?]
        · rename_i entries present
          simpa [entriesOf, Value.field?, present, Value.asArray?] using
            Success.mapM_iff.mp readEdges
        · cases readEdges
  · cases read

theorem ordered_of_get? {fields : List (String × Value)} (ordered : Value.OrderedFields fields)
    {key : String} {value : Value} (found : Entries.get? fields key = some value) :
    value.Ordered := by
  induction fields with
  | nil => cases found
  | cons head rest ih =>
    obtain ⟨k, v⟩ := head
    rw [Entries.get?] at found
    by_cases same : k = key
    · rw [if_pos same] at found
      cases found
      exact ordered.1
    · rw [if_neg same] at found
      exact ih ordered.2 found

theorem ordered_entriesOf {document : Value} (ordered : document.Ordered) (name : String) :
    ∀ entry ∈ entriesOf name document, entry.Ordered := by
  intro entry member
  unfold entriesOf at member
  cases document with
  | object fields =>
    cases found : Entries.get? fields name with
    | none => simp [Value.field?, found] at member
    | some value =>
      have whole : value.Ordered := ordered_of_get? ordered.2 found
      cases value with
      | array items =>
        have inside : entry ∈ items := by simpa [Value.field?, found, Value.asArray?] using member
        exact (Value.orderedItems_iff items).mp whole entry inside
      | null | bool | number | string | object =>
        simp [Value.field?, found, Value.asArray?] at member
  | null | bool | number | string | array => simp [Value.field?] at member

/-- Entry for entry, two lists of objects hold the same beside the reserved keys. -/
def Keeps (reserved : List String) (before after : List Value) : Prop :=
  List.Forall₂ (fun entry kept => ∀ key ∉ reserved, kept.field? key = entry.field? key)
    before after

theorem keeps_of_read {α : Type} {reserved : List String} {read : Value → α → Prop}
    {metadata : α → Metadata} {written : α → Metadata} {entries : List Value} {items : List α}
    (ordered : ∀ entry ∈ entries, entry.Ordered) (all : List.Forall₂ read entries items)
    (reads : ∀ entry item, read entry item →
      ∃ fields, entry = .object fields ∧ metadata item = metadataOf reserved fields)
    (writes : ∀ item, ∀ key ∉ reserved, (written item).get? key = (metadata item).get? key) :
    Keeps reserved entries (items.map fun item => .ofDict (written item)) := by
  rw [Keeps, List.forall₂_map_right_iff]
  refine ((List.forall₂_and_left entries items).mpr ⟨ordered, all⟩).imp ?_
  rintro entry item ⟨inOrder, one⟩ key other
  obtain ⟨fields, rfl, same⟩ := reads entry item one
  have kept := writes item key other
  rw [same, get?_metadataOf_of_ascending inOrder.1 other] at kept
  exact kept

theorem forall_of_read {α : Type} {read : Value → α → Prop} {p : α → Prop} {entries : List Value}
    {items : List α} (all : List.Forall₂ read entries items)
    (gives : ∀ entry item, read entry item → p item) : ∀ item ∈ items, p item := by
  induction all with
  | nil => simp
  | cons one _ ih => exact List.forall_mem_cons.mpr ⟨gives _ _ one, ih⟩

theorem storable_of_decode {document : Value} {flow : Flow}
    (read : Registry.standard.decode document = .ok (some flow)) : flow.Storable := by
  obtain ⟨nodes, edges⟩ := entries_of_decode read
  constructor
  · refine forall_of_read nodes fun entry node one => ?_
    obtain ⟨fields, -, metadata⟩ := metadata_of_decodeNode one
    exact metadata ▸ metadataOf_free reservedNodeKeys fields
  · refine forall_of_read edges fun entry edge one => ?_
    obtain ⟨fields, -, metadata⟩ := metadata_of_decodeEdge one
    exact metadata ▸ metadataOf_free reservedEdgeKeys fields

theorem entriesOf_document (flow : Flow) :
    entriesOf "nodes" (Flow.document (some flow)) =
        flow.nodes.map (fun node => .ofDict node.fields) ∧
      entriesOf "edges" (Flow.document (some flow)) = flow.edges.map Edge.encode := by
  constructor <;>
    simp [Flow.document, Value.ofFields, entriesOf, Value.field?, Entries.get?_ofList,
      Entries.get?, Value.asArray?]

theorem eq_of_decode_none {document : Value}
    (read : Registry.standard.decode document = .ok none) :
    document = .null ∨ document = .object [] := by
  unfold Registry.decode at read
  split at read
  · exact .inl rfl
  · exact .inr rfl
  · rename_i fields _
    cases found : (Entries.get? fields "nodes").bind Value.asArray? with
    | none => simp [found] at read
    | some entries =>
      simp only [found] at read
      obtain ⟨nodes, -, read⟩ := Success.bind_iff.mp read
      obtain ⟨edges, -, read⟩ := Success.bind_iff.mp read
      cases read
  · cases read

theorem keeps_of_decode {document : Value} {loaded : Option Flow} (ordered : document.Ordered)
    (read : Registry.standard.decode document = .ok loaded) :
    Keeps reservedNodeKeys (entriesOf "nodes" document)
        (entriesOf "nodes" (Flow.document loaded)) ∧
      Keeps reservedEdgeKeys (entriesOf "edges" document)
        (entriesOf "edges" (Flow.document loaded)) := by
  cases loaded with
  | none =>
    have empty (name : String) : entriesOf name document = [] := by
      rcases eq_of_decode_none read with rfl | rfl <;> rfl
    rw [empty, empty]
    exact ⟨.nil, .nil⟩
  | some flow =>
    obtain ⟨nodes, edges⟩ := entries_of_decode read
    obtain ⟨writtenNodes, writtenEdges⟩ := entriesOf_document flow
    rw [writtenNodes, writtenEdges]
    constructor
    · exact keeps_of_read (ordered_entriesOf ordered "nodes") nodes
        (fun _ _ => metadata_of_decodeNode) fun node _ => node.get?_fields
    · exact keeps_of_read (ordered_entriesOf ordered "edges") edges
        (fun _ _ => metadata_of_decodeEdge) fun edge _ => edge.get?_fields

/-- What can be written is read back, and what was read can be written, with nothing lost. -/
theorem decode_encode_standard :
    (∀ loaded : Option Flow, (∀ flow ∈ loaded, flow.Storable) →
      ∃ document, Registry.standard.encode loaded = .ok document ∧
        Registry.standard.decode document = .ok loaded) ∧
    ∀ (document : Value) (loaded : Option Flow), document.Ordered →
      Registry.standard.decode document = .ok loaded →
        (∀ flow ∈ loaded, flow.Storable) ∧
        ∃ written, Registry.standard.encode loaded = .ok written ∧
          Registry.standard.decode written = .ok loaded ∧
          Keeps reservedNodeKeys (entriesOf "nodes" document) (entriesOf "nodes" written) ∧
          Keeps reservedEdgeKeys (entriesOf "edges" document) (entriesOf "edges" written) := by
  constructor
  · intro loaded storable
    exact ⟨Flow.document loaded, encode_eq_document loaded, decode_document storable⟩
  · intro document loaded ordered read
    have storable : ∀ flow ∈ loaded, flow.Storable := by
      rintro flow ⟨⟩
      exact storable_of_decode read
    exact ⟨storable, Flow.document loaded, encode_eq_document loaded, decode_document storable,
      keeps_of_decode ordered read⟩

def notedDocument : Value :=
  .object [("edges", .null), ("nodes", .array [.object [("data", .object [("delay",
    .whole (.ofUInt64 5))]), ("id", .string "wait"), ("note", .string "for the server"),
      ("type", .string "delayNode")]])]

def notedFlow : Flow where
  nodes := [⟨"wait", .delay 5, .ofList [("note", .string "for the server")]⟩]
  edges := []

theorem noted_round_trip :
    (∃ document, Registry.standard.encode (some .polling) = .ok document ∧
        Registry.standard.decode document = .ok (some .polling)) ∧
      notedDocument.Ordered ∧ Registry.standard.decode notedDocument = .ok (some notedFlow) ∧
      notedFlow.Storable ∧
      ∃ written, Registry.standard.encode (some notedFlow) = .ok written ∧
        Registry.standard.decode written = .ok (some notedFlow) ∧
        Keeps reservedNodeKeys (entriesOf "nodes" notedDocument) (entriesOf "nodes" written) := by
  have storable : ∀ flow ∈ some Flow.polling, flow.Storable := by
    rintro flow ⟨⟩
    constructor <;> simp [Flow.polling, Flow.Free] <;> decide
  have ordered : notedDocument.Ordered := by
    simp only [notedDocument, Value.Ordered, Value.OrderedFields, Value.OrderedItems, Value.whole,
      and_true, true_and]
    decide
  have read : Registry.standard.decode notedDocument = .ok (some notedFlow) := by rfl
  obtain ⟨saves, loads⟩ := decode_encode_standard
  obtain ⟨free, written, encoded, again, nodes, -⟩ := loads notedDocument _ ordered read
  exact ⟨saves (some .polling) storable, ordered, read, free notedFlow rfl, written, encoded,
    again, nodes⟩

end Scenario
