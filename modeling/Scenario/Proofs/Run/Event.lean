import Scenario.Proofs.Json.Fields
import Scenario.Proofs.Json.Tagged
import Scenario.Proofs.Run.Id
import Scenario.Run.Event
/-!
Events read back from their lines.

A client reads each line of a stream as the event that was written, but for one thing: a payload that
is null is read as none. It is assumed that the JSON of the event is read back from its text
and that time stamps are; that ids are is proved. Results and their errors are read back as they were,
so no two of them have the same line.
-/
namespace Scenario

open Json (Value Decoder Record Variant)
open Json.Decoder (string_string)

/-- A time stamp that is read back from its text. -/
def Timestamp.ReadsBack (t : Timestamp) : Prop := ofText t.text = .ok t

instance (t : Timestamp) : Decidable t.ReadsBack :=
  inferInstanceAs (Decidable (Timestamp.ofText t.text = .ok t))

theorem Timestamp.ReadsBack.decode_encode {t : Timestamp} (back : t.ReadsBack) :
    decode t.encode = .ok t := by
  rw [decode, encode, Decoder.reading, show ofText t.text = .ok t from back]
  rfl

theorem RunId.decode_encode (id : RunId) : decode id.encode = .ok id := by
  rw [decode, encode, Decoder.reading, ofText_text]
  rfl

theorem Level.choice_name (level : Level) :
    Decoder.choice .tagged (all.map fun level => (level.name, level)) (.string level.name) =
      .ok level := by
  cases level <;> rfl

theorem Kind.choice_tag (kind : Kind) :
    Decoder.choice .tagged (all.map fun kind => (kind.tag, kind)) (.string kind.tag) =
      .ok kind := by
  cases kind <;> rfl

theorem Outcome.choice_name (outcome : Outcome) :
    Decoder.choice .tagged (all.map fun outcome => (outcome.name, outcome))
      (.string outcome.name) = .ok outcome := by
  cases outcome <;> rfl

theorem choice_labelText (label : Bool) :
    Decoder.choice .tagged labelNames (.string (labelText label)) = .ok label := by
  cases label <;> rfl

theorem NodeRef.decode_encode (node : NodeRef) : decode node.encode = .ok node := by
  refine Record.decode_ofFields ?_
  refine .apply (.map (.field ?_ (string_string node.id))) (.field ?_ node.kind.choice_tag) <;>
    exact Entries.get?_ofList_eq_some rfl

section Errors

variable {setting : Json.Setting} {object : List (String × Value) → Value}

theorem RequestFailure.decode_encodeBy (puts : Value.Puts object) {failure : RequestFailure}
    (ordered : failure.encode.Ordered) :
    decode setting (failure.encodeBy object) = .ok failure := by
  cases failure with
  | response status statusText data =>
    have found : (encode (.response status statusText data)).field? "data" = some data :=
      Entries.get?_ofList_eq_some rfl
    have sorted := Value.ordered_of_field? ordered found
    have kept : Decoder.ordered data = .ok data :=
      congrArg Except.ok (Value.normalize_of_ordered sorted)
    refine Variant.decode_puts puts (by simp) rfl rfl fun content found => ?_
    refine .apply (.apply (.map (.field ?_ (Decoder.uint16_whole status)))
      (.field ?_ (string_string statusText))) (.field ?_ kept) <;>
      exact (found _).trans rfl
  | unavailable message =>
    refine Variant.decode_puts puts (by simp) rfl rfl fun content found => ?_
    exact .map (.field ((found _).trans rfl) (string_string message))

theorem RunError.decode_plain (puts : Value.Puts object) {kind title message : String}
    {error : String → RunError}
    (known : variants.find? (·.name = kind) = some (messageVariant title kind error)) :
    decode setting (object (plain kind message)) = .ok (error message) := by
  refine Variant.decode_puts puts (by simp [plain]) rfl known fun content found => ?_
  exact .map (.field ((found _).trans rfl) (string_string message))

theorem RunError.decode_encodeBy (puts : Value.Puts object) {e : RunError}
    (ordered : e.encode.Ordered) : decode setting (e.encodeBy object) = .ok e := by
  cases e with
  | graph | document | invalidStep | defect => exact decode_plain puts rfl
  | deadEnd node label =>
    refine Variant.decode_puts puts (by simp) rfl rfl fun content found => ?_
    refine .apply (.map (.field ?_ (string_string node))) (.field ?_ (choice_labelText label)) <;>
      exact (found _).trans rfl
  | request failure =>
    have inside : (encode (.request failure)).field? "failure" = some failure.encode :=
      Entries.get?_ofList_eq_some rfl
    have sorted := Value.ordered_of_field? ordered inside
    refine Variant.decode_puts puts (by simp) rfl rfl fun content found => ?_
    exact .map (.field ((found _).trans rfl) (RequestFailure.decode_encodeBy puts sorted))
  | timedOut timeout =>
    refine Variant.decode_puts puts (by simp) rfl rfl fun content found => ?_
    exact .map (.field ((found _).trans rfl) (Decoder.uint64_whole timeout))

theorem RunError.written_ne_null (e : RunError) : e.written ≠ .null := by
  cases e <;> nofun

variable {depth : Nat}

/-- How deep a failure nests, and whether its doubles last, is so in any order of the fields. -/
theorem RequestFailure.lasting_encodeBy (puts : Value.Puts object) (failure : RequestFailure) :
    (failure.encodeBy object).Lasting (depth + 1) ↔ failure.encode.Lasting (depth + 1) := by
  cases failure with
  | response | unavailable =>
    rw [encode, encodeBy, encodeBy, puts.lasting_iff (by simp),
      Value.puts_ofFields.lasting_iff (by simp)]

theorem RunError.lasting_encodeBy (puts : Value.Puts object) (e : RunError) :
    (e.encodeBy object).Lasting (depth + 2) ↔ e.encode.Lasting (depth + 2) := by
  cases e with
  | graph | document | invalidStep | defect =>
    rw [encode, encodeBy, encodeBy, puts.lasting_iff (by simp [plain]),
      Value.puts_ofFields.lasting_iff (by simp [plain])]
  | deadEnd | timedOut =>
    rw [encode, encodeBy, encodeBy, puts.lasting_iff (by simp),
      Value.puts_ofFields.lasting_iff (by simp)]
  | request failure =>
    rw [encode, encodeBy, encodeBy, puts.lasting_iff (by simp),
      Value.puts_ofFields.lasting_iff (by simp)]
    simp only [List.forall_mem_cons, failure.lasting_encodeBy puts, RequestFailure.encode]

end Errors

/-- The entry that a client reads: null cannot be told from no payload. -/
def LogEntry.received (entry : LogEntry) : LogEntry :=
  { entry with payload := entry.payload.filter (· ≠ .null) }

theorem LogEntry.received_eq_self_iff (entry : LogEntry) :
    entry.received = entry ↔ entry.payload ≠ some .null := by
  rcases entry with ⟨timestamp, level, message, node, _ | payload⟩
  · simp [received]
  · simp [received, Option.filter]

namespace RunEvent

variable {entry : LogEntry} {result : RunResult}

section Fields

variable {event : RunEvent} {object : List (String × Value) → Value} {depth : Nat}

theorem nodup_fieldsBy (event : RunEvent) (object : List (String × Value) → Value) :
    ((("type", Value.string event.tag) :: event.fieldsBy object).map Prod.fst).Nodup := by
  cases event with
  | log entry =>
    rcases entry with ⟨timestamp, level, message, _ | node, _ | payload⟩ <;>
      simp [fieldsBy, LogEntry.fields]
  | result report => simp [fieldsBy, RunResult.fieldsBy]

theorem lasting_encodeBy (puts : Value.Puts object) (event : RunEvent) :
    (event.encodeBy object).Lasting (depth + 3) ↔ event.encode.Lasting (depth + 3) := by
  rw [encode, encodeBy, encodeBy, puts.lasting_iff (event.nodup_fieldsBy _),
    Value.puts_ofFields.lasting_iff (event.nodup_fieldsBy _)]
  cases event with
  | log entry => rfl
  | result report =>
    have error : (report.error.elim .null (RunError.encodeBy object)).Lasting (depth + 2) ↔
        (report.error.elim .null (RunError.encodeBy .ofFields)).Lasting (depth + 2) := by
      cases report.error with
      | none => rfl
      | some e => exact e.lasting_encodeBy puts
    simp only [fieldsBy, RunResult.fieldsBy, List.forall_mem_cons, error]

theorem ordered_of_fieldsBy {key : String} {v : Value} (ordered : event.encode.Ordered)
    (found : Entries.get? (event.fieldsBy .ofFields) key = some v) : v.Ordered := by
  have distinct := event.nodup_fieldsBy .ofFields
  have inside := List.mem_cons_of_mem ("type", Value.string event.tag) (Entries.mem_of_get? found)
  exact Value.ordered_of_field? ordered
    ((Value.field?_ofFields distinct key).trans (Entries.get?_of_mem_of_nodup distinct inside))

theorem decode_written {variant : Variant RunEvent}
    (known : variants.find? (·.name = event.tag) = some variant) :
    Variant.decode .plain "type" "RunEvent" variants event.written =
      variant.content (.object (event.fieldsBy .object)) := by
  have distinct := event.nodup_fieldsBy .object
  have others : ∀ field ∈ event.fieldsBy .object, field.1 ≠ "type" := by
    intro field member named
    exact (List.nodup_cons.mp distinct).1 (List.mem_map.mpr ⟨field, member, named⟩)
  have beside : Entries.erase "type" (("type", .string event.tag) :: event.fieldsBy .object) =
      event.fieldsBy .object := by
    rw [Entries.erase, List.filter_cons_of_neg (by simp), List.filter_eq_self]
    exact fun field member => decide_eq_true (others field member)
  rw [written, encodeBy, Variant.decode_object distinct (if_pos rfl) known, beside]

theorem isSpace_break : ∀ c ∈ ['\n'], Json.Parser.isSpace c = true := by
  intro c member
  rw [List.mem_singleton.mp member]
  rfl

theorem read_line {variant : Variant RunEvent} {decoded : RunEvent} (back : event.encode.ReadsBack)
    (known : variants.find? (·.name = event.tag) = some variant)
    (decodes : variant.content (.object (event.fieldsBy .object)) = .ok decoded) :
    read (line event) = .ok decoded := by
  have lasting : event.written.Lasting Json.Parser.nestingLimit :=
    (event.lasting_encodeBy Value.puts_object).mpr back.lasting
  exact Variant.read_of_decode isSpace_break lasting ((decode_written known).trans decodes)

end Fields

section Results

theorem reads_result (ordered : (encode (.result result)).Ordered)
    (started : result.startedAt.ReadsBack) (finished : result.finishedAt.ReadsBack) :
    RunResult.record.Reads (result.fieldsBy .object) result := by
  have error : Entries.get? (fieldsBy .ofFields (.result result)) "error" =
      some (result.error.elim .null RunError.encode) := rfl
  have vars : Entries.get? (fieldsBy .ofFields (.result result)) "variables" =
      some (.ofDict result.vars) := rfl
  have decodedError : ∀ e ∈ result.error, RunError.decode .tagged e.written = .ok e := by
    intro e present
    have sorted := ordered_of_fieldsBy ordered error
    rw [Option.mem_def.mp present] at sorted
    exact RunError.decode_encodeBy Value.puts_object sorted
  -- Field by field, in the order of the record; what is left is to find each under its name.
  refine .apply (.apply (.apply (.apply (.apply (.apply
    (.map (.field ?_ result.runId.decode_encode))
    (.field ?_ result.outcome.choice_name))
    (.fieldOr ?_ (Decoder.nullable_elim (by simp) fun s _ => string_string s)))
    (.fieldOr ?_ (Decoder.nullable_elim (fun e _ => e.written_ne_null) decodedError)))
    (.field ?_ started.decode_encode))
    (.field ?_ finished.decode_encode))
    (.field ?_ (Decoder.dict_of_sorted (ordered_of_fieldsBy ordered vars))) <;>
    rfl

/-- The line of a result is read as the result. -/
theorem read_line_result (back : (encode (.result result)).ReadsBack)
    (started : result.startedAt.ReadsBack) (finished : result.finishedAt.ReadsBack) :
    read (line (.result result)) = .ok (.result result) := by
  have reads := reads_result ((Value.readsBack_iff _).mp back).1 started finished
  have decoded : RunResult.decode (.object (result.fieldsBy .object)) = .ok result :=
    Record.decode_object (List.nodup_cons.mp ((RunEvent.result result).nodup_fieldsBy _)).2 reads
  refine read_line back rfl ?_
  dsimp only [fieldsBy]
  rw [decoded]
  rfl

end Results

section Logs

theorem get?_fields (entry : LogEntry) :
    Entries.get? entry.fields "timestamp" = some entry.timestamp.encode ∧
      Entries.get? entry.fields "level" = some (.string entry.level.name) ∧
      Entries.get? entry.fields "message" = some (.string entry.message) ∧
      Entries.get? entry.fields "node" = entry.node.map NodeRef.encode ∧
      Entries.get? entry.fields "payload" = entry.payload := by
  rcases entry with ⟨timestamp, level, message, _ | node, _ | payload⟩ <;>
    simp [LogEntry.fields, Entries.get?]

theorem reads_entry (ordered : (encode (.log entry)).Ordered) (stamp : entry.timestamp.ReadsBack) :
    LogEntry.record.Reads entry.fields entry.received := by
  obtain ⟨timestamp, level, message, node, payload⟩ := get?_fields entry
  refine .apply (.apply (.apply (.apply
    (.map (.field timestamp stamp.decode_encode))
    (.field level entry.level.choice_name))
    (.field message (string_string entry.message)))
    (.nullable node ?_ Option.map_eq_none_iff.mp))
    (.nullable payload ?_ ?_)
  · intro w present
    obtain ⟨one, found, rfl⟩ := Option.map_eq_some_iff.mp present
    rw [found]
    exact congrArg (Except.map some) one.decode_encode
  · intro w present
    rw [Option.mem_def.mp present] at payload
    have kept := Decoder.nullable_ordered (ordered_of_fieldsBy ordered payload)
    rwa [← Option.mem_def.mp present] at kept
  · intro absent
    rw [absent]
    rfl

/-- The line of an entry is read as the entry without a payload that is null. -/
theorem read_line_log (back : (encode (.log entry)).ReadsBack)
    (stamp : entry.timestamp.ReadsBack) : read (line (.log entry)) = .ok (.log entry.received) := by
  have reads := reads_entry ((Value.readsBack_iff _).mp back).1 stamp
  have decoded : LogEntry.decode (.object entry.fields) = .ok entry.received :=
    Record.decode_object (List.nodup_cons.mp ((RunEvent.log entry).nodup_fieldsBy .object)).2 reads
  refine read_line back rfl ?_
  dsimp only [fieldsBy]
  rw [decoded]
  rfl

end Logs

/-- A line is read as the entry itself exactly if the entry has no payload that is null; otherwise
it is read as the same entry without a payload. -/
theorem read_log_exactly (entry : LogEntry) (back : (encode (.log entry)).ReadsBack)
    (stamp : entry.timestamp.ReadsBack) :
    read (line (.log entry)) = .ok (.log entry.received) ∧
      (read (line (.log entry)) = .ok (.log entry) ↔ entry.payload ≠ some .null) := by
  have received := read_line_log back stamp
  refine ⟨received, ?_⟩
  rw [received, ← entry.received_eq_self_iff]
  constructor
  · intro same
    exact RunEvent.log.inj (Except.ok.inj same)
  · intro same
    rw [same]

def nullEntry : LogEntry :=
  ⟨.ofMillis 1704164645000, .info, "Output from 'a'", some ⟨"a", .output⟩, some .null⟩

theorem nullEntry_received :
    (encode (.log nullEntry)).ReadsBack ∧ nullEntry.timestamp.ReadsBack ∧
      read (line (.log nullEntry)) = .ok (.log { nullEntry with payload := none }) ∧
      read (line (.log { nullEntry with payload := some (.string "null") })) =
        .ok (.log { nullEntry with payload := some (.string "null") }) := by
  have back : (encode (.log nullEntry)).ReadsBack := by decide +kernel
  have stamp : nullEntry.timestamp.ReadsBack := by decide +kernel
  obtain ⟨received, -⟩ := read_log_exactly nullEntry back stamp
  obtain ⟨-, exactly⟩ := read_log_exactly { nullEntry with payload := some (.string "null") }
    (by decide +kernel) stamp
  exact ⟨back, stamp, received, exactly.mpr nofun⟩

def puttingOutNull : Flow := ⟨[⟨"a", .output .null, {}⟩], []⟩

/-- The entry that a run of this flow writes is read as another one. -/
theorem null_payload_lost :
    ((Job.start .standard 0 1704164645000 .default 0 (.ok (some puttingOutNull))).poll 0
      .offline).1.log = [nullEntry] ∧
    read (line (.log nullEntry)) ≠ .ok (.log nullEntry) := by
  constructor
  · rfl
  · rw [read_line_log (by decide +kernel) (by decide +kernel)]
    decide

end RunEvent

/-- What is assumed of the texts within a result: that its JSON and its times are read back. -/
structure RunResult.Legible (result : RunResult) : Prop where
  back : (RunEvent.encode (.result result)).ReadsBack
  started : result.startedAt.ReadsBack
  finished : result.finishedAt.ReadsBack

namespace RunError

/-- An error is read from its own text, whatever the order of its fields. -/
theorem read_compact {object : List (String × Value) → Value} (puts : Value.Puts object)
    {e : RunError} (back : e.encode.ReadsBack) :
    Variant.read "kind" "RunError" variants (e.encodeBy object).compact = .ok e := by
  have isObject : ∃ fields, e.encodeBy object = .object fields := by
    cases e <;> exact ⟨_, (puts _ (by simp [plain])).choose_spec.1⟩
  obtain ⟨fields, shape⟩ := isObject
  have lasting : (e.encodeBy object).Lasting Json.Parser.nestingLimit :=
    (e.lasting_encodeBy puts).mpr back.lasting
  have decoded : decode .plain (e.encodeBy object) = .ok e :=
    decode_encodeBy puts ((Value.readsBack_iff _).mp back).1
  rw [shape] at lasting decoded ⊢
  have read : Variant.read "kind" "RunError" variants
      ((Value.object fields).compact ++ String.ofList []) = .ok e :=
    Variant.read_of_decode (List.forall_mem_nil _) lasting decoded
  rwa [String.ofList_nil, String.append_empty] at read

end RunError

/-- Results are read back from their lines and errors from their JSON, whatever is in them and in
either order of the fields, so no two of them are written alike. -/
theorem RunResult.read_back :
    (∀ result : RunResult, result.Legible →
      RunEvent.read (RunEvent.line (.result result)) = .ok (.result result)) ∧
    (∀ e : RunError, e.encode.ReadsBack → RunError.decode .plain e.encode = .ok e ∧
      Variant.read "kind" "RunError" RunError.variants e.encode.compact = .ok e ∧
      Variant.read "kind" "RunError" RunError.variants e.written.compact = .ok e) ∧
    (∀ result other : RunResult, result.Legible → other.Legible →
      RunEvent.line (.result result) = RunEvent.line (.result other) → result = other) ∧
    ∀ e other : RunError, e.encode.ReadsBack → other.encode.ReadsBack →
      e.encode.compact = other.encode.compact ∨ e.written.compact = other.written.compact →
      e = other := by
  have results (result : RunResult) (legible : result.Legible) :
      RunEvent.read (RunEvent.line (.result result)) = .ok (.result result) :=
    RunEvent.read_line_result legible.back legible.started legible.finished
  refine ⟨results, ?_, ?_, ?_⟩
  · intro e back
    exact ⟨RunError.decode_encodeBy Value.puts_ofFields ((Value.readsBack_iff _).mp back).1,
      RunError.read_compact Value.puts_ofFields back, RunError.read_compact Value.puts_object back⟩
  · intro result other first second same
    have read := results result first
    rw [same, results other second] at read
    exact (RunEvent.result.inj (Except.ok.inj read)).symm
  · rintro e other first second (same | same)
    · have read := RunError.read_compact Value.puts_ofFields first
      rw [← RunError.encode, same] at read
      exact (Except.ok.inj (read.symm.trans (RunError.read_compact Value.puts_ofFields second)))
    · have read := RunError.read_compact Value.puts_object first
      rw [← RunError.written, same] at read
      exact (Except.ok.inj (read.symm.trans (RunError.read_compact Value.puts_object second)))

/-- A result with an error in an error, and with texts and names that look like others. -/
def refusedResult : RunResult where
  runId := .ofNat 7
  outcome := .failed
  lastNode := none
  error := some (.request (.response 418 "I am a \"teapot\""
    (.array [.null, .string "\n\x7b\x7d"])))
  startedAt := .ofMillis 1704164645678
  finishedAt := .ofMillis 1704164646000
  vars := .ofList [("type", .string "log"), ("a.b", .object [("kind", .bool true)])]

theorem refusedResult_read_back :
    refusedResult.Legible ∧
      RunEvent.read (RunEvent.line (.result refusedResult)) = .ok (.result refusedResult) ∧
      (RunError.deadEnd "a" false).encode.ReadsBack ∧
      RunError.decode .plain (RunError.deadEnd "a" false).encode = .ok (.deadEnd "a" false) ∧
      RunEvent.line (.result refusedResult) ≠
        RunEvent.line (.result { refusedResult with lastNode := some "" }) ∧
      (RunError.graph "a").encode.compact ≠ (RunError.deadEnd "a" false).encode.compact := by
  have legible : refusedResult.Legible :=
    ⟨by decide +kernel, by decide +kernel, by decide +kernel⟩
  have other : { refusedResult with lastNode := some "" }.Legible :=
    ⟨by decide +kernel, legible.started, legible.finished⟩
  have back : (RunError.deadEnd "a" false).encode.ReadsBack := by decide +kernel
  have graph : (RunError.graph "a").encode.ReadsBack := by decide +kernel
  obtain ⟨results, errors, distinct, distinctErrors⟩ := RunResult.read_back
  refine ⟨legible, results refusedResult legible, back, (errors _ back).1, fun same => ?_,
    fun same => nomatch distinctErrors _ _ graph back (.inl same)⟩
  exact absurd (congrArg RunResult.lastNode (distinct _ _ legible other same)) nofun

end Scenario
