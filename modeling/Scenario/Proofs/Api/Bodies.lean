import Scenario.Api.Service
import Scenario.Proofs.Json.Fields
/-!
What bodies of requests are read as.

The settings of a run stand in a body by themselves or beside the flow that is to be run. Either way
they are read as the same, whatever else the body holds and in whatever order it is written.
-/
namespace Scenario.Api

open Json (Value Decoder Record)

/-- Fields that give settings, and no flow. -/
structure WellTyped (fields : List (String × Value)) : Prop where
  timeout : ∀ v ∈ Entries.get? fields "timeoutMs",
    v = .null ∨ ∃ n : UInt64, v = .whole (.ofUInt64 n)
  vars : ∀ v ∈ Entries.get? fields "variables", ∃ vars, v = .object vars
  environment : ∀ v ∈ Entries.get? fields "environment", v = .null ∨ ∃ name, v = .string name
  noFlow : Entries.get? fields "flow" = none

section Settings

variable {fields : List (String × Value)}

/-- The settings that fields give, however they are written and whatever flow stands beside. -/
theorem WellTyped.exists_reads (typed : WellTyped fields) :
    ∃ settings, ∀ written, (∀ key, key ≠ "flow" →
        (Entries.get? written key).map Value.normalize = Entries.get? fields key) →
      RunSettings.record.Reads written settings := by
  have timed : ∀ v ∈ Entries.get? fields "timeoutMs",
      ∃ timeout, Decoder.nullable Decoder.uint64 v = .ok timeout := by
    intro v stands
    rcases typed.timeout v stands with rfl | ⟨n, rfl⟩
    · exact ⟨none, rfl⟩
    · exact ⟨some n, congrArg (Except.map some) (Decoder.uint64_whole n)⟩
  have valued : ∀ v ∈ Entries.get? fields "variables",
      ∃ vars, Decoder.dict Decoder.ordered v = .ok vars := by
    intro v stands
    obtain ⟨vars, rfl⟩ := typed.vars v stands
    exact ⟨_, Decoder.dict_ordered vars⟩
  have named : ∀ v ∈ Entries.get? fields "environment",
      ∃ name, Decoder.nullable Decoder.string v = .ok name := by
    intro v stands
    rcases typed.environment v stands with rfl | ⟨name, rfl⟩
    · exact ⟨none, rfl⟩
    · exact ⟨some name, rfl⟩
  obtain ⟨timeout, readTimeout⟩ :=
    Record.exists_reads_fieldWith Decoder.Unordered.uint64.nullable timed
  obtain ⟨vars, readVars⟩ := Record.exists_reads_fieldWith Decoder.Unordered.dict valued
  obtain ⟨environment, readEnvironment⟩ :=
    Record.exists_reads_fieldWith Decoder.Unordered.string.nullable named
  refine ⟨⟨timeout, vars, environment⟩, fun written same => ?_⟩
  refine .apply (.apply (.map (readTimeout written (same _ ?_))) (readVars written (same _ ?_)))
    (readEnvironment written (same _ ?_))
  all_goals decide

end Settings

namespace RunRequest

/-- The fields of a body are read as those of any object, as long as no second flow stands there. -/
theorem fields_of_read {fuel : Nat} {found : Bool} {text rest : List Char}
    {fields : List (String × Value)}
    (read : Json.Parser.fields fuel (Json.Parser.nestingLimit - 1) text = .ok (fields, rest))
    (distinct : (fields.map Prod.fst).Nodup)
    (fresh : found = true → "flow" ∉ fields.map Prod.fst) :
    RunRequest.fields fuel found text = .ok (fields, rest) := by
  induction fuel generalizing found text fields rest with
  | zero => cases read
  | succ fuel ih =>
    unfold Json.Parser.fields at read
    obtain ⟨⟨name, afterName⟩, named, read⟩ := Success.bind_iff.mp read
    obtain ⟨afterColon, separated, read⟩ := Success.bind_iff.mp read
    obtain ⟨⟨v, after⟩, valued, read⟩ := Success.bind_iff.mp read
    obtain ⟨⟨more, behind⟩, asked, read⟩ := Success.bind_iff.mp read
    have known {later : List (String × Value)} (head : fields = (name, v) :: later) :
        ¬ (found = true ∧ name = "flow") := by
      rintro ⟨already, rfl⟩
      exact fresh already (head ▸ List.mem_cons_self)
    cases more with
    | false =>
      cases read
      simp [RunRequest.fields, reading, named, separated, valued, asked, Except.mapError, known rfl,
        bind, Except.bind, pure, Except.pure]
    | true =>
      obtain ⟨⟨later, final⟩, others, read⟩ := Success.bind_iff.mp read
      cases read
      obtain ⟨single, distinct⟩ := List.nodup_cons.mp distinct
      have unseen : (found || name == "flow") = true → "flow" ∉ later.map Prod.fst := by
        intro seen again
        rcases Bool.or_eq_true_iff.mp seen with already | here
        · exact fresh already (List.mem_cons_of_mem name again)
        · exact single (beq_iff_eq.mp here ▸ again)
      simp [RunRequest.fields, reading, named, separated, valued, asked, Except.mapError, known rfl,
        ih others distinct unseen, bind, Except.bind, pure, Except.pure]

theorem object_of_value {text rest : List Char} {fields : List (String × Value)}
    (done : Json.Parser.value (Json.Parser.fuelFor text) Json.Parser.nestingLimit text =
      .ok (.object fields, rest))
    (distinct : (fields.map Prod.fst).Nodup) : object text = .ok (fields, rest) := by
  obtain ⟨inside, opened, none | some⟩ := Json.Parser.object_of_value done
  · obtain ⟨rfl, closed⟩ := none
    simp only [object, opened, closed]
  · obtain ⟨later, quoted, read⟩ := some
    simp only [object, opened, quoted]
    exact fields_of_read read distinct nofun

theorem read_of_parse {body : String} {written : List (String × Value)} {request : RunRequest}
    (parsed : Json.parseAsWritten body = .ok (.object written))
    (distinct : (written.map Prod.fst).Nodup) (reads : record.Reads written request) :
    read body = .ok request := by
  obtain ⟨rest, value, blank⟩ := Json.value_of_parseAsWritten parsed
  rw [read, object_of_value value distinct]
  simp only [bind, Except.bind, Record.decode_object distinct reads, Except.mapError, blank]
  rfl

end RunRequest

theorem object_of_parse {text : String} {fields : List (String × Value)}
    (parsed : Json.parse text = .ok (.object fields)) :
    ∃ written, Json.parseAsWritten text = .ok (.object written) ∧
      Entries.ofList (Value.normalizeFields written) = fields := by
  obtain ⟨v, read, same⟩ := Success.map_iff.mp parsed
  cases v with
  | object written => exact ⟨written, read, Value.object.inj same⟩
  | null | bool | number | string | array => cases same

theorem not_blank_of_parse {text : String} {fields : List (String × Value)}
    (parsed : Json.parse text = .ok (.object fields)) : Text.isBlankText text = false := by
  obtain ⟨written, read, -⟩ := object_of_parse parsed
  obtain ⟨rest, value, -⟩ := Json.value_of_parseAsWritten read
  obtain ⟨inside, opened, -⟩ := Json.Parser.object_of_value value
  have brace : '{' ∈ Json.Parser.skip text.toList := opened ▸ List.mem_cons_self
  rw [Text.isBlankText, List.all_eq_false]
  exact ⟨'{', (List.dropWhile_sublist _).subset brace, by decide⟩

/-- Settings give the same, whether a body holds them alone or with a flow. -/
theorem exists_settings {saved posted : String} {settings : List (String × Value)}
    {document : Value} (typed : WellTyped settings)
    (parsed : Json.parse saved = .ok (.object settings))
    (posts : Json.parse posted = .ok (.object (Entries.insert "flow" document settings)))
    (distinct : ∀ written, Json.parseAsWritten posted = .ok (.object written) →
      (written.map Prod.fst).Nodup) :
    ∃ given, readSettings saved = .ok given ∧ RunRequest.read posted = .ok ⟨document, given⟩ := by
  obtain ⟨given, reads⟩ := typed.exists_reads
  refine ⟨given, ?_, ?_⟩
  · obtain ⟨ordered, -⟩ := Json.ordered_of_parse parsed
    have own : RunSettings.decode (.object settings) = .ok given :=
      Record.decode_object (Entries.nodup_of_ascending ordered.1)
        (reads settings fun key _ => Value.get?_of_ordered ordered key)
    simp [readSettings, readOptionalJson, not_blank_of_parse parsed, readJson, parsed, own, bind,
      Except.bind, Except.map, Except.mapError]
  · obtain ⟨written, read, same⟩ := object_of_parse posts
    have single := distinct written read
    have found (key : String) : (Entries.get? written key).map Value.normalize =
        if "flow" = key then some document else Entries.get? settings key := by
      rw [← Value.get?_normalizeFields single, same, Entries.get?_insert]
    have flow := found "flow"
    rw [if_pos rfl, Option.map_eq_some_iff] at flow
    obtain ⟨original, stands, rfl⟩ := flow
    refine RunRequest.read_of_parse read single (.apply (.map (.field stands rfl)) ?_)
    refine reads written fun key apart => ?_
    rw [found, if_neg (Ne.symm apart)]

end Scenario.Api
