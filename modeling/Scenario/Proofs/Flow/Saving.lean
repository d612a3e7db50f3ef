import Scenario.Proofs.Flow.Document
import Scenario.Proofs.Json.Layout
import Scenario.Proofs.Json.Nesting
/-!
Flows that are loaded and saved.

A flow may be written in many ways and is saved in one. What is saved is loaded as the same flow and
saved as the same text, and it nests no deeper than what was loaded, or than the five levels that
the data of a node can take: so it never nests too deep to be loaded again.
-/
namespace Scenario

open Json (Value)

namespace Json.Value

/-- The value is in order, nests so deep at most, and all of its doubles are good. -/
structure Fits (good : Number.Double → Prop) (depth : Nat) (v : Value) : Prop where
  ordered : v.Ordered
  shallow : v.nesting ≤ depth
  doubles : ∀ d ∈ v.doubles, good d

variable {good : Number.Double → Prop} {depth : Nat}

theorem fits_null : Fits good depth .null := ⟨trivial, Nat.zero_le depth, by simp [doubles]⟩

theorem fits_string (s : String) : Fits good depth (.string s) :=
  ⟨trivial, Nat.zero_le depth, by simp [doubles]⟩

theorem fits_whole (n : Whole) : Fits good depth (.whole n) :=
  ⟨trivial, Nat.zero_le depth, by simp [whole, doubles]⟩

theorem Fits.mono {deeper : Nat} {v : Value} (fits : Fits good depth v) (le : depth ≤ deeper) :
    Fits good deeper v :=
  ⟨fits.ordered, Nat.le_trans fits.shallow le, fits.doubles⟩

theorem fits_array_iff {items : List Value} :
    Fits good (depth + 1) (.array items) ↔ ∀ item ∈ items, Fits good depth item := by
  constructor
  · intro fits item member
    have shallow := Nat.le_of_succ_le_succ fits.shallow
    exact ⟨(orderedItems_iff items).mp fits.ordered item member,
      (nestingItems_le_iff items depth).mp shallow item member,
      (forall_doublesItems_iff items _).mp fits.doubles item member⟩
  · intro all
    have shallow :=
      (nestingItems_le_iff items depth).mpr fun item member => (all item member).shallow
    exact ⟨(orderedItems_iff items).mpr fun item member => (all item member).ordered,
      Nat.succ_le_succ shallow,
      (forall_doublesItems_iff items _).mpr fun item member => (all item member).doubles⟩

theorem fits_object_iff {fields : List (String × Value)} :
    Fits good (depth + 1) (.object fields) ↔
      Entries.Ascending fields ∧ ∀ field ∈ fields, Fits good depth field.2 := by
  constructor
  · intro fits
    obtain ⟨ascending, ordered⟩ := fits.ordered
    have shallow := Nat.le_of_succ_le_succ fits.shallow
    refine ⟨ascending, fun field member => ?_⟩
    exact ⟨(orderedFields_iff fields).mp ordered field member,
      (nestingFields_le_iff fields depth).mp shallow field member,
      (forall_doublesFields_iff fields _).mp fits.doubles field member⟩
  · rintro ⟨ascending, all⟩
    have ordered := (orderedFields_iff fields).mpr fun field member => (all field member).ordered
    have shallow :=
      (nestingFields_le_iff fields depth).mpr fun field member => (all field member).shallow
    exact ⟨⟨ascending, ordered⟩, Nat.succ_le_succ shallow,
      (forall_doublesFields_iff fields _).mpr fun field member => (all field member).doubles⟩

theorem fits_ofFields {fields : List (String × Value)}
    (all : ∀ field ∈ fields, Fits good depth field.2) : Fits good (depth + 1) (.ofFields fields) :=
  fits_object_iff.mpr ⟨Entries.ofList_ascending fields,
    fun field member => all field (Entries.mem_of_mem_ofList member)⟩

theorem Fits.field {fields : List (String × Value)} (fits : Fits good (depth + 1) (.object fields))
    {key : String} {v : Value} (found : Entries.get? fields key = some v) : Fits good depth v :=
  (fits_object_iff.mp fits).2 (key, v) (Entries.mem_of_get? found)

theorem fits_ofDict_iff {d : Dict Value} :
    Fits good (depth + 1) (.ofDict d) ↔ ∀ field ∈ d.entries, Fits good depth field.2 :=
  fits_object_iff.trans (and_iff_right d.ascending)

end Json.Value

section Encoding

open Json.Value

variable {good : Number.Double → Prop} {depth : Nat}

theorem fits_headersValue (headers : Dict String) :
    (headersValue headers).Fits good (depth + 1) := by
  rw [headersValue, fits_ofDict_iff, Dict.map]
  intro field member
  obtain ⟨header, -, rfl⟩ := List.mem_map.mp member
  exact fits_string header.2

theorem BodyTemplate.fits_encode (body : BodyTemplate) : body.encode.Fits good (depth + 1) := by
  cases body <;>
    exact fits_ofFields (by simp [fits_string])

theorem Auth.fits_encode (auth : Auth) : auth.encode.Fits good (depth + 1) := by
  cases auth <;>
    exact fits_ofFields (by simp [fits_string])

theorem RequestStep.fits_encode (data : RequestStep) : data.encode.Fits good (depth + 2) := by
  refine fits_ofFields ?_
  simp [fits_string, fits_headersValue, BodyTemplate.fits_encode]

theorem Assignment.fits_value {name : String} {data : Value} {assignment : Assignment}
    (read : Assignment.record.decode .plain name data = .ok assignment)
    (fits : data.Fits good (depth + 1)) : assignment.value.Fits good depth := by
  cases data with
  | object fields =>
    obtain ⟨-, -, read⟩ := Success.bind_iff.mp read
    obtain ⟨make, first, read⟩ := Success.bind_iff.mp read
    obtain ⟨v, second, done⟩ := Success.bind_iff.mp read
    obtain ⟨target, -, rfl⟩ := Success.map_iff.mp first
    cases done
    obtain ⟨value, found, same⟩ := Json.Record.found_of_fromFields second
    cases same
    exact fits.field found
  | array items =>
    -- Of the items the first is the name and the second the value; a third is refused.
    obtain ⟨⟨made, rest⟩, read, done⟩ := Success.bind_iff.mp read
    obtain ⟨⟨make, later⟩, first, read⟩ := Success.bind_iff.mp read
    obtain ⟨⟨v, final⟩, second, same⟩ := Success.bind_iff.mp read
    obtain ⟨⟨target, others⟩, taken, pair⟩ := Success.map_iff.mp first
    obtain ⟨head, rfl, -⟩ := Json.Record.first_of_fromItems taken
    cases pair
    obtain ⟨value, rfl, decoded⟩ := Json.Record.first_of_fromItems second
    cases decoded
    cases same
    have isMade : assignment = ⟨target, v⟩ := by
      dsimp only at done
      split at done
      · cases done
        rfl
      · cases done
    rw [isMade]
    exact (fits_array_iff.mp fits) v (by simp)
  | null | bool | number | string => cases read

theorem Step.fits_encode {kind : Kind} {data : Value} {step : Step}
    (read : Step.decode kind data = .ok step) (fits : data.Fits good (depth + 2)) :
    step.encode.Fits good (depth + 2) := by
  cases kind with
  | request =>
    obtain ⟨request, -, rfl⟩ := Success.map_iff.mp read
    exact request.fits_encode
  | assertion =>
    obtain ⟨assertion, -, rfl⟩ := Success.map_iff.mp read
    exact fits_ofFields (by simp [fits_string])
  | delay =>
    obtain ⟨duration, -, rfl⟩ := Success.map_iff.mp read
    exact fits_ofFields (by simp [fits_whole])
  | assignment =>
    obtain ⟨assignment, decoded, rfl⟩ := Success.map_iff.mp read
    exact fits_ofFields (by simp [fits_string, Assignment.fits_value decoded fits])
  | output =>
    cases read
    exact fits
  | auth =>
    obtain ⟨auth, -, rfl⟩ := Success.map_iff.mp read
    exact auth.fits_encode

theorem fits_metadataOf {reserved : List String} {fields : List (String × Value)}
    (fits : (Value.object fields).Fits good (depth + 1)) :
    ∀ field ∈ (metadataOf reserved fields).entries, field.2.Fits good depth := by
  intro field member
  have kept := Entries.mem_of_mem_ofList member
  exact (fits_object_iff.mp fits).2 field (List.mem_filter.mp kept).1

theorem fits_insert {d : Dict Value} {key : String} {v : Value}
    (all : ∀ field ∈ d.entries, field.2.Fits good depth) (fits : v.Fits good depth) :
    ∀ field ∈ (d.insert key v).entries, field.2.Fits good depth := by
  intro field member
  rcases Entries.mem_insert member with rfl | before
  · exact fits
  · exact all field before

/-- A node is written no deeper than it was read, if it was given two levels for its data. -/
theorem Node.fits_fields {entry : Value} {node : Node}
    (read : Registry.standard.decodeNode entry = .ok node) (fits : entry.Fits good (depth + 3)) :
    (Value.ofDict node.fields).Fits good (depth + 3) := by
  obtain ⟨fields, rfl, metadata, kind, decoded⟩ := parts_of_decodeNode read
  have data : ((Entries.get? fields "data").getD .null).Fits good (depth + 2) := by
    cases found : Entries.get? fields "data" with
    | none => exact fits_null
    | some v => exact fits.field found
  rw [fits_ofDict_iff, Node.fields, metadata]
  refine fits_insert (fits_insert (fits_insert (fits_metadataOf fits) ?_) ?_) ?_
  · exact fits_string node.id
  · exact fits_string node.kind.tag
  · exact Step.fits_encode decoded data

theorem Edge.fits_encode {entry : Value} {edge : Edge} (read : Edge.decode entry = .ok edge)
    (fits : entry.Fits good (depth + 1)) : edge.encode.Fits good (depth + 1) := by
  obtain ⟨fields, rfl, metadata⟩ := metadata_of_decodeEdge read
  have ends : ∀ field ∈ (((edge.metadata.insert "id" (.string edge.id)).insert "source"
      (.string edge.source)).insert "target" (.string edge.target)).entries,
      field.2.Fits good depth := by
    rw [metadata]
    refine fits_insert (fits_insert (fits_insert (fits_metadataOf fits) ?_) ?_) ?_
    · exact fits_string edge.id
    · exact fits_string edge.source
    · exact fits_string edge.target
  rw [Edge.encode_eq, fits_ofDict_iff, Edge.fields]
  cases edge.label with
  | none => exact ends
  | some label => exact fits_insert ends (fits_string _)

theorem fits_entriesOf {document : Value} (fits : document.Fits good (depth + 2)) (name : String) :
    ∀ entry ∈ entriesOf name document, entry.Fits good depth := by
  intro entry member
  unfold entriesOf at member
  cases document with
  | object fields =>
    cases found : Entries.get? fields name with
    | none => simp [Value.field?, found] at member
    | some v =>
      have inside : v.Fits good (depth + 1) := fits.field found
      cases v with
      | array items =>
        have present : entry ∈ items := by simpa [Value.field?, found, Value.asArray?] using member
        exact fits_array_iff.mp inside entry present
      | null | bool | number | string | object =>
        simp [Value.field?, found, Value.asArray?] at member
  | null | bool | number | string | array => simp [Value.field?] at member

theorem fits_of_read {α : Type} {read : Value → α → Prop} {write : α → Value} {deep : Nat}
    {entries : List Value} {items : List α} (fits : ∀ entry ∈ entries, entry.Fits good deep)
    (all : List.Forall₂ read entries items)
    (keeps : ∀ entry item, read entry item → entry.Fits good deep → (write item).Fits good deep) :
    (Value.array (items.map write)).Fits good (deep + 1) := by
  rw [fits_array_iff, List.forall_mem_map]
  exact forall_of_read ((List.forall₂_and_left entries items).mpr ⟨fits, all⟩)
    fun entry item both => keeps entry item both.2 both.1

theorem Flow.fits_document {document : Value} {flow : Flow}
    (read : Registry.standard.decode document = .ok (some flow))
    (fits : document.Fits good (depth + 5)) :
    (Flow.document (some flow)).Fits good (depth + 5) := by
  obtain ⟨nodes, edges⟩ := entries_of_decode read
  have writtenNodes := fits_of_read (fits_entriesOf fits "nodes") nodes
    fun _ _ => Node.fits_fields
  have writtenEdges := fits_of_read (fits_entriesOf fits "edges") edges
    fun _ _ => Edge.fits_encode
  refine fits_ofFields ?_
  simp [writtenNodes, writtenEdges]

end Encoding

/-- A text that is loaded is no blank or stands for a flow that has not been written yet. -/
theorem loaded_of_read {text : String} {loaded : Option Flow}
    (read : Registry.standard.read text = .ok loaded) :
    loaded = none ∨ ∃ document, Json.parse text = .ok document ∧
      Registry.standard.decode document = .ok loaded := by
  unfold Registry.read at read
  split at read
  · cases read
    exact .inl rfl
  · split at read
    · cases read
    · rename_i document parsed
      exact .inr ⟨document, parsed, read⟩

theorem not_blank_of_object (fields : List (String × Value)) :
    Text.isBlankText (Value.object fields).pretty = false := by
  cases fields with
  | nil => rfl
  | cons field later =>
    rw [Value.pretty, Value.prettyChars, Text.isBlankText, String.toList_ofList]
    rfl

namespace Flow

/-- The text that a flow is saved as. -/
def savedText (loaded : Option Flow) : String := (document loaded).pretty

theorem write_savedText (loaded : Option Flow) :
    Registry.standard.write loaded = .ok (savedText loaded) := by
  rw [Registry.write, encode_eq_document]
  rfl

theorem savedText_not_blank (loaded : Option Flow) :
    Text.isBlankText (savedText loaded) = false := by
  cases loaded <;> exact not_blank_of_object _

end Flow

/-- A flow whose document fits is saved, and loaded again as it was. -/
theorem read_pretty {loaded : Option Flow} (storable : ∀ flow ∈ loaded, flow.Storable)
    (fits : (Flow.document loaded).Fits Number.Double.ReadsBack Json.Parser.nestingLimit) :
    Registry.standard.write loaded = .ok (Flow.document loaded).pretty ∧
      Json.parse (Flow.document loaded).pretty = .ok (Flow.document loaded) ∧
      Registry.standard.read (Flow.document loaded).pretty = .ok loaded := by
  have parsed := Value.parse_pretty fits.ordered fits.shallow
  rw [Value.reread_of_readsBack fits.doubles] at parsed
  refine ⟨Flow.write_savedText loaded, parsed, ?_⟩
  rw [Registry.read, ← Flow.savedText, Flow.savedText_not_blank, if_neg Bool.false_ne_true,
    Flow.savedText, parsed]
  exact decode_document storable

/-- The document that is written for a loaded flow nests no deeper than the one it was read from, or
than the five levels that are needed for the headers of a request. -/
theorem fits_of_read_text {text : String} {loaded : Option Flow}
    (read : Registry.standard.read text = .ok loaded)
    (back : ∀ document, Json.parse text = .ok document → ∀ d ∈ document.doubles, d.ReadsBack) :
    (∀ flow ∈ loaded, flow.Storable) ∧ ∃ deep ≤ Json.Parser.nestingLimit,
      (Flow.document loaded).Fits Number.Double.ReadsBack deep ∧
        ∀ document, Json.parse text = .ok document → deep ≤ max document.nesting 5 := by
  cases loaded with
  | none =>
    refine ⟨by simp, 1, by decide, ?_, fun document _ => by omega⟩
    exact Value.fits_object_iff.mpr ⟨.nil, by simp⟩
  | some flow =>
    rcases loaded_of_read read with absent | ⟨document, parsed, decoded⟩
    · cases absent
    · obtain ⟨ordered, shallow⟩ := Json.ordered_of_parse parsed
      -- A document of fewer levels than five is given five.
      have fits : document.Fits Number.Double.ReadsBack (document.nesting - 5 + 5) :=
        ⟨ordered, by omega, back document parsed⟩
      refine ⟨?_, document.nesting - 5 + 5, ?_, Flow.fits_document decoded fits, ?_⟩
      · rintro flow ⟨⟩
        exact storable_of_decode decoded
      · have room : 5 ≤ Json.Parser.nestingLimit := by decide
        omega
      · intro other same
        cases parsed.symm.trans same
        omega

/-- Whatever text a flow is read from, the flow is saved, in a text that is read as the same flow
and is left as it is by loading and saving. Of the text it is only asked that its doubles are the
ones that their shortest decimals read as. -/
theorem write_of_read {text : String} {loaded : Option Flow}
    (read : Registry.standard.read text = .ok loaded)
    (back : ∀ document, Json.parse text = .ok document → ∀ d ∈ document.doubles, d.ReadsBack) :
    ∃ saved, Registry.standard.write loaded = .ok saved ∧
      Registry.standard.read saved = .ok loaded ∧
      (Registry.standard.read saved >>= Registry.standard.write) = .ok saved ∧
      ∃ written, Registry.standard.encode loaded = .ok written ∧ Json.parse saved = .ok written ∧
        written.nesting ≤ Json.Parser.nestingLimit ∧
        ∀ document, Json.parse text = .ok document → written.nesting ≤ max document.nesting 5 := by
  obtain ⟨storable, deep, low, fits, bound⟩ := fits_of_read_text read back
  obtain ⟨wrote, parsed, again⟩ := read_pretty storable (fits.mono low)
  refine ⟨(Flow.document loaded).pretty, wrote, again, ?_, Flow.document loaded,
    encode_eq_document loaded, parsed, Nat.le_trans fits.shallow low, ?_⟩
  · rw [again]
    exact wrote
  · intro document same
    exact Nat.le_trans fits.shallow (bound document same)

def half : Number.Double := ⟨false, Number.fullMantissa, 1021, by decide⟩

/-- A flow that is written in other ways than it is saved: an array for a record, a request without
headers and body, and a label that is no string. -/
def sharingText : String :=
  "\x7b\"nodes\": [\x7b\"id\": \"ask\", \"type\": \"requestNode\",
      \"data\": \x7b\"method\": \"GET\", \"url\": \"http://localhost/\"\x7d\x7d,
    \x7b\"id\": \"pause\", \"type\": \"delayNode\", \"data\": [5]\x7d,
    \x7b\"id\": \"share\", \"type\": \"outputNode\", \"data\": 0.5\x7d],
  \"edges\": [\x7b\"id\": \"on\", \"source\": \"ask\", \"target\": \"share\",
    \"label\": true\x7d]\x7d"

def sharingDocument : Value :=
  .object [
    ("edges", .array [.object [("id", .string "on"), ("label", .bool true),
      ("source", .string "ask"), ("target", .string "share")]]),
    ("nodes", .array [
      .object [("data", .object [("method", .string "GET"), ("url", .string "http://localhost/")]),
        ("id", .string "ask"), ("type", .string "requestNode")],
      .object [("data", .array [.whole (.ofUInt64 5)]), ("id", .string "pause"),
        ("type", .string "delayNode")],
      .object [("data", .number (.double half)), ("id", .string "share"),
        ("type", .string "outputNode")]])]

def sharingFlow : Flow where
  nodes := [⟨"ask", .request ⟨.get, "http://localhost/", {}, .none⟩, {}⟩, ⟨"pause", .delay 5, {}⟩,
    ⟨"share", .output (.number (.double half)), {}⟩]
  edges := [⟨"on", "ask", "share", some true, {}⟩]

theorem half_readsBack : half.ReadsBack := by
  -- Its size has hundreds of digits, which are counted as a list and not as a string.
  have shortest : half.shortest = ⟨5, -1⟩ := by
    simp only [Number.Double.shortest, Number.Double.leadingExponent, Nat.repr,
      String.length_ofList, Number.Decimal.strip]
    decide +kernel
  rw [Number.Double.ReadsBack, Number.Double.text, shortest]
  decide +kernel

theorem sharing_saved :
    Registry.standard.read sharingText = .ok (some sharingFlow) ∧
      Json.parse sharingText = .ok sharingDocument ∧
      (∀ d ∈ sharingDocument.doubles, d.ReadsBack) ∧ sharingDocument.nesting = 4 ∧
      ∃ saved, Registry.standard.write (some sharingFlow) = .ok saved ∧
        Registry.standard.read saved = .ok (some sharingFlow) ∧
        (Registry.standard.read saved >>= Registry.standard.write) = .ok saved ∧
        ∃ written, Json.parse saved = .ok written ∧ written.nesting ≤ 5 := by
  have parsed : Json.parse sharingText = .ok sharingDocument := by
    rw [Json.parse, Json.parseAsWritten, sharingText, String.toList_ofList]
    decide +kernel
  have solid : Text.isBlankText sharingText = false := by
    rw [Text.isBlankText, sharingText, String.toList_ofList]
    decide +kernel
  have read : Registry.standard.read sharingText = .ok (some sharingFlow) := by
    rw [Registry.read, solid, if_neg Bool.false_ne_true, parsed]
    rfl
  have back : ∀ d ∈ sharingDocument.doubles, d.ReadsBack := by
    have only : sharingDocument.doubles = [half] := by rfl
    simp [only, half_readsBack]
  obtain ⟨saved, wrote, again, stable, written, -, same, -, shallow⟩ :=
    write_of_read read fun document same => by
      cases parsed.symm.trans same
      exact back
  exact ⟨read, parsed, back, by rfl, saved, wrote, again, stable, written, same,
    shallow sharingDocument parsed⟩

end Scenario
