import Scenario.Proofs.Run.Telling
import Scenario.Proofs.Run.Writes
/-!
What the log of a run tells.

The log begins with the entries about the visits that were left behind. A run that ends before it is
complete has one more entry, which says where it stood. `Journey.Accounts` is kept by every turn;
what it says of the reports of steps is put in terms of their kinds at the end.
-/
namespace Scenario

namespace Journey

variable {graph : Graph} {tolerance : UInt32} {visits before : List Visit} {visit : Visit}

/-- Where a run is stopped by an error: by its limits before a step, or at its last visit. -/
inductive Halts (tolerance : UInt32) (behind visits : List Visit) : StepError → Prop where
  | refused (reason : Interruption) : visits = behind →
    Halts tolerance behind visits (.interrupted reason)
  | failed {last : Visit} {e : StepError} : visits = behind ++ [last] →
    last.result = some (.error e) → ¬ Passed tolerance visits last →
    Halts tolerance behind visits e

/-- What a run has written last: nothing if it goes on or has completed, and otherwise one entry,
into which a dead end takes the report of its assertion. -/
inductive Closes (tolerance : UInt32) (behind visits : List Visit) (run : Run) :
    List LogEntry → Prop where
  | active : run.ending? = none → Closes tolerance behind visits run []
  | completed {now : Nat} : run.phase = .ended ⟨.completed, none, now⟩ → visits = behind →
    Closes tolerance behind visits run []
  | stopped {e : StepError} {now : Nat} (message : String) (payload : Option Json.Value) :
    run.phase = .ended (run.endingOf now e) → Halts tolerance behind visits e →
    Closes tolerance behind visits run [run.entryOf now ⟨e.outcome.level, message, payload⟩]
  | deadEnd {label : Bool} {now : Nat} {last : Visit} {report : StepReport} {after : Context} :
    run.phase = .ended ⟨.failed, some (.deadEnd run.node.id label), now⟩ →
    visits = behind ++ [last] → last.node = run.node → last.verdict = some label →
    last.result = some (.ok (report, after)) →
    Closes tolerance behind visits run
      [run.entryOf now (Run.deadEndLine (Run.reportLine report) (.deadEnd run.node.id label))]

structure Accounts (graph : Graph) (tolerance : UInt32) (journey : Journey) : Prop where
  counted : journey.run.tolerated =
    (graph.behind tolerance journey.visits).countP Visit.failed
  written : ∃ body closing, journey.run.log = body ++ closing ∧
    Told tolerance (graph.behind tolerance journey.visits) body ∧
    Closes tolerance (graph.behind tolerance journey.visits) journey.visits journey.run closing

variable {run : Run} {journey : Journey}

theorem Closes.of_active {behind : List Visit} {closing : List LogEntry}
    (closes : Closes tolerance behind visits run closing) (active : run.ending? = none) :
    closing = [] := by
  cases closes with
  | active | completed => rfl
  | stopped message payload ended => simp [Run.ending?, ended] at active
  | deadEnd ended => simp [Run.ending?, ended] at active

/-- As long as a run goes on, its log tells of the visits behind it and of nothing else. -/
theorem Accounts.of_active (accounts : Accounts graph tolerance journey)
    (active : journey.run.ending? = none) :
    Told tolerance (graph.behind tolerance journey.visits) journey.run.log := by
  obtain ⟨body, closing, log, told, closes⟩ := accounts.written
  rw [closes.of_active active, List.append_nil] at log
  exact log ▸ told

theorem accounts_of_stop (run : Run) (now : Nat) {e : StepError} (transport : Transport)
    (token : Bool) (told : Told tolerance (graph.behind tolerance visits) run.log)
    (counted : run.tolerated = (graph.behind tolerance visits).countP Visit.failed)
    (halts : Halts tolerance (graph.behind tolerance visits) visits e) :
    Accounts graph tolerance ⟨run.stop now e, transport, now, token, visits⟩ := by
  obtain ⟨message, payload, written⟩ := run.stop_log now e
  obtain ⟨log, stopped⟩ := run.stop_eq now e
  rw [stopped] at written ⊢
  exact ⟨counted, run.log, _, written, told, .stopped message payload rfl halts⟩

/-- A run that is stopped at its last visit has told of all visits but that one. -/
theorem accounts_of_failed {run : Run} (now : Nat) {e : StepError} (transport : Transport)
    (token : Bool) (told : Told tolerance before run.log)
    (counted : run.tolerated = before.countP Visit.failed)
    (isResult : visit.result = some (.error e))
    (failed : ¬ Passed tolerance (before ++ [visit]) visit) :
    Accounts graph tolerance ⟨run.stop now e, transport, now, token, before ++ [visit]⟩ := by
  have behind : graph.behind tolerance (before ++ [visit]) = before := behind_of_not_passed failed
  apply accounts_of_stop
  · rwa [behind]
  · rwa [behind]
  · rw [behind]
    exact .failed rfl isResult failed

/-- A step that was passed is told as the run goes on or completes, and not at a dead end. -/
theorem AtVisit.accounts_advance (runnable : graph.flow.Runnable)
    (at_ : AtVisit graph tolerance run before visit) (context : Context) {tolerated now : Nat}
    {line : Option Line} (transport : Transport) (token : Bool)
    (told : Told tolerance before run.log)
    (passed : Passed tolerance (before ++ [visit]) visit)
    (counted : tolerated = (before ++ [visit]).countP Visit.failed)
    (tells : List.Forall₂ Visit.Tells ([visit].filter Visit.speaks)
      (line.toList.map (run.entryOf now)))
    (reported : visit.verdict ≠ none → ∃ report after,
      visit.result = some (.ok (report, after)) ∧ line = Run.reportLine report) :
    Accounts graph tolerance ⟨{ run with context, tolerated }.advance now line visit.verdict,
      transport, now, token, before ++ [visit]⟩ := by
  obtain ⟨rfl, registry_eq, rfl, member, same, -, -, -⟩ := at_
  have fits : visit.verdict = none ↔ run.node.kind ≠ .assertion := by
    rw [← same]
    exact visit.verdict_eq_none_iff
  have further := told.snoc passed tells
  have written := Run.advance_log { run with context, tolerated } now line visit.verdict
  rcases Run.advance_cases { run with context, tolerated } runnable member fits now line
    with ⟨edge, target, log, only, -, -, gone⟩ | ⟨log, plain, nothing, gone⟩ |
      ⟨label, log, verdict, nothing, gone⟩
  · have behind : run.graph.behind run.tolerance (before ++ [visit]) = before ++ [visit] :=
      behind_of_passed passed (.inr (by simp [same, only]))
    rw [gone] at written ⊢
    rcases written with ⟨written, -⟩ | ⟨e, ended, -⟩
    · refine ⟨?_, _, [], written.trans (List.append_nil _).symm, ?_, .active rfl⟩ <;> rw [behind]
      · exact counted
      · exact further
    · cases ended
  · have behind : run.graph.behind run.tolerance (before ++ [visit]) = before ++ [visit] :=
      behind_of_passed passed (.inl plain)
    rw [gone] at written ⊢
    rcases written with ⟨written, -⟩ | ⟨e, ended, -⟩
    · refine ⟨?_, _, [], written.trans (List.append_nil _).symm, ?_, .completed rfl behind.symm⟩ <;>
        rw [behind]
      · exact counted
      · exact further
    · cases ended
  · -- What the assertion reported goes into the closing entry, so nothing is told of its visit.
    have behind : run.graph.behind run.tolerance (before ++ [visit]) = before :=
      behind_of_deadEnd verdict (same ▸ nothing)
    rw [gone] at written ⊢
    rcases written with ⟨-, never⟩ | ⟨e, ended, written⟩
    · exact absurd rfl (never _)
    · cases ended
      obtain ⟨report, after, isResult, rfl⟩ := reported (by simp [verdict])
      have unfailed : visit.failed = false := by simp [Visit.failed, isResult]
      refine ⟨?_, run.log, _, written, ?_, .deadEnd rfl ?_ same verdict isResult⟩ <;> rw [behind]
      · have settled : tolerated = before.countP Visit.failed := by simpa [unfailed] using counted
        exact settled
      · exact told

theorem AtVisit.accounts_proceed (runnable : graph.flow.Runnable)
    (at_ : AtVisit graph tolerance run before visit) {result : StepResult} {now : Nat}
    (transport : Transport) (token : Bool) (isResult : visit.result = some result)
    (leaves : result.Leaves run.context visit.verdict)
    (sure : visit.verdict ≠ none → ∃ done, result = .ok done)
    (told : Told tolerance before run.log) :
    Accounts graph tolerance
      ⟨run.proceed now (.finished result), transport, now, token, before ++ [visit]⟩ := by
  rcases Run.proceed_finished_cases run now result with ⟨report, context, rfl, gone⟩ |
    ⟨failure, rfl, tolerable, gone⟩ | ⟨e, rfl, intolerable, gone⟩
  · have finished : visit.finished = true := by simp [Visit.finished, isResult]
    have unfailed : visit.failed = false := by simp [Visit.failed, isResult]
    have counted : run.tolerated = (before ++ [visit]).countP Visit.failed := by
      simpa [unfailed] using at_.counted
    have tells := visit.tells_report now at_.same isResult
    rw [gone, (leaves report context rfl).1]
    exact at_.accounts_advance runnable context transport token told (.inl finished) counted tells
      fun _ => ⟨report, context, isResult, rfl⟩
  · have plain : visit.verdict = none := by
      by_contra verdict
      obtain ⟨done, same⟩ := sure verdict
      cases same
    have passed := (at_.passed_iff_tolerable isResult).mpr tolerable
    have failed : visit.failed = true := by simp [Visit.failed, isResult]
    have counted : run.tolerated + 1 = (before ++ [visit]).countP Visit.failed := by
      simp [failed, at_.counted]
    have tells := visit.tells_failure (run.tolerated + 1) now at_.same isResult
    rw [gone, ← plain]
    exact at_.accounts_advance runnable run.context transport token told passed counted tells
      fun verdict => absurd plain verdict
  · rw [gone]
    apply accounts_of_failed now transport token told at_.counted isResult
    by_cases request : ∃ failure, e = .requestFailed failure
    · obtain ⟨failure, rfl⟩ := request
      rw [at_.passed_iff_tolerable isResult, Nat.not_lt]
      exact intolerable failure rfl
    · exact not_passed_of_error isResult (not_exists.mp request)

theorem Accounts.turn {after : Journey} (runnable : graph.flow.Runnable)
    (sound : Sound graph tolerance journey) (turn : Turn journey after)
    (accounts : Accounts graph tolerance journey) : Accounts graph tolerance after := by
  have told := accounts.of_active turn.active
  have counted := accounts.counted
  -- A turn is told when it has a result; a step that begins to wait is not left behind.
  cases turn with
  | refuse ready limit =>
    refine accounts_of_stop journey.run journey.now _ _ told counted (.refused _ ?_)
    exact (sound.expects ready).behind_eq.symm
  | carryOut ready limit leaves own sure =>
    rename_i result
    rw [(sound.expects ready).behind_eq] at told
    have at_ := sound.entering ready
      ⟨journey.run.node, journey.now, journey.run.context, some result⟩ rfl
    refine at_.accounts_proceed runnable _ _ rfl leaves ?_ told
    intro verdict
    rw [ne_eq, Visit.verdict_eq_none_iff, not_not] at verdict
    exact sure verdict
  | begin ready limit kind served =>
    rename_i step transport
    rw [(sound.expects ready).behind_eq] at told counted
    have behind : graph.behind tolerance (journey.visits ++
        [⟨journey.run.node, journey.now, journey.run.context, none⟩]) = journey.visits :=
      behind_of_not_passed (by simp [Passed, Visit.finished, Visit.failed])
    refine ⟨?_, journey.run.log, [], (List.append_nil _).symm, ?_, .active rfl⟩ <;> rw [behind]
    · exact counted
    · exact told
  | interrupt suspended limit =>
    obtain ⟨before, last, visits, behind, -, -⟩ := sound.behind_of_suspended suspended
    rw [behind] at told counted
    rw [visits, Visit.settle_append]
    exact accounts_of_failed journey.now _ _ told counted rfl (not_passed_of_interrupted rfl)
  | withdraw suspended limit =>
    obtain ⟨before, last, visits, behind, -, -⟩ := sound.behind_of_suspended suspended
    rw [behind] at told counted
    rw [visits, Visit.settle_append]
    exact accounts_of_failed journey.now _ _ told counted rfl (not_passed_of_interrupted rfl)
  | finish suspended limit leaves own =>
    rename_i step result
    obtain ⟨before, last, visits, behind, plain, at_⟩ := sound.behind_of_suspended suspended
    rw [behind] at told
    rw [visits, Visit.settle_append]
    refine (at_ (some result)).accounts_proceed runnable _ _ rfl ?_ ?_ told
    · exact plain ▸ leaves
    · exact fun verdict => absurd plain verdict

theorem Accounts.cancel (accounts : Accounts graph tolerance journey) :
    Accounts graph tolerance (journey.after .cancel) := by
  obtain ⟨counted, body, closing, log, told, closes⟩ := accounts
  refine ⟨counted, body, closing, log, told, ?_⟩
  cases closes with
  | active active => exact .active active
  | completed ended all => exact .completed ended all
  | stopped message payload ended halts =>
    have kept : journey.run.cancel.phase = .ended (journey.run.cancel.endingOf _ _) := ended
    exact .stopped message payload kept halts
  | deadEnd ended most same verdict isResult =>
    have kept : journey.run.cancel.phase = _ := ended
    exact .deadEnd kept most same verdict isResult

theorem accounts_afterAll (runnable : graph.flow.Runnable) (member : graph.entry ∈ graph.nodes)
    (tolerance : UInt32) (epoch : Nat) (vars : Variables) (timeout : UInt64) (now : Nat)
    (transport : Transport) (moves : List Move) :
    Accounts graph tolerance
      ((start graph tolerance epoch vars timeout now transport).afterAll moves) := by
  have sound := sound_start member tolerance epoch vars timeout now transport
  have accounts : Accounts graph tolerance
      (start graph tolerance epoch vars timeout now transport) :=
    ⟨rfl, [], [], rfl, .nil, .active rfl⟩
  refine (afterAll_invariant
    (p := fun later => Sound graph tolerance later ∧ Accounts graph tolerance later)
    (fun _ held => held.1.registry_eq) ?_ ?_ ?_ ⟨sound, accounts⟩ moves).2
  · rintro before after ⟨sound, accounts⟩ turn
    exact ⟨sound.turn runnable turn, accounts.turn runnable sound turn⟩
  · rintro later ⟨sound, accounts⟩
    exact ⟨sound.cancel, accounts.cancel⟩
  · rintro later duration ⟨sound, accounts⟩
    exact ⟨sound.pass duration, accounts.counted, accounts.written⟩

/-- A log in two parts: the entries about the visits that were left behind, and what the run has
written when it ended. -/
structure Logs (graph : Graph) (tolerance : UInt32) (journey : Journey)
    (body closing : List LogEntry) : Prop where
  log : journey.run.log = body ++ closing
  passed : ∀ visit ∈ graph.behind tolerance journey.visits,
    visit.finished = true ∨ visit.failed = true
  rest : journey.visits = graph.behind tolerance journey.visits ∨
    ∃ last, journey.visits = graph.behind tolerance journey.visits ++ [last] ∧
      (last.result = none ∨ ∃ ending, journey.run.phase = .ended ending ∧
        ending.outcome ≠ .completed)
  told : List.Forall₂ Visit.Tells
    ((graph.behind tolerance journey.visits).filter Visit.isTold) body
  active : journey.run.ending? = none → closing = []
  completed : ∀ id result, journey.result? id = some result → result.outcome = .completed →
    closing = []
  closed : ∀ id result, journey.result? id = some result → result.outcome ≠ .completed →
    ∃ entry ref, closing = [entry] ∧ entry.node = some ref ∧ result.lastNode = some ref.id ∧
      entry.level = result.outcome.level
  deadEnd : ∀ id result node label, journey.result? id = some result →
    result.error = some (.deadEnd node label) →
    ∃ last report after entry, journey.visits = graph.behind tolerance journey.visits ++ [last] ∧
      last.node.id = node ∧ last.result = some (.ok (report, after)) ∧ closing = [entry] ∧
      entry.node = some last.node.ref ∧ entry.payload = report.payload
  errors : ∀ id result, journey.result? id = some result →
    journey.run.log.countP (·.level = .error) =
      (graph.behind tolerance journey.visits).countP Visit.failed +
        if result.outcome = .failed ∨ result.outcome = .timedOut then 1 else 0

theorem Sound.rest (sound : Sound graph tolerance journey) :
    journey.visits = graph.behind tolerance journey.visits ∨
      ∃ last, journey.visits = graph.behind tolerance journey.visits ++ [last] ∧
        (last.result = none ∨ ∃ ending, journey.run.phase = .ended ending ∧
          ending.outcome ≠ .completed) := by
  rcases behind_cases graph tolerance journey.visits with all | ⟨last, most⟩
  · exact .inl all
  · have isLast : journey.visits.getLast? = some last := by
      rw [most]
      exact List.getLast?_concat
    have stands := sound.stands
    generalize phase : journey.run.phase = reached at stands
    cases stands with
    | ready expected => exact .inl expected.behind_eq.symm
    | refused expected => exact .inl expected.behind_eq.symm
    | suspended atLast same plain pending =>
      cases isLast.symm.trans atLast
      exact .inr ⟨last, most, .inl pending⟩
    | stopped atLast =>
      exact .inr ⟨last, most, .inr ⟨_, rfl, StepError.outcome_ne_completed _⟩⟩
    | deadEnd => exact .inr ⟨last, most, .inr ⟨_, rfl, by simp⟩⟩
    | completed atLast same plain passed nothing =>
      obtain ⟨before, visits⟩ := List.getLast?_eq_some_iff.mp atLast
      left
      rw [visits] at passed ⊢
      rw [behind_of_passed passed (.inl plain)]

/-- The closing entry of a run that did not complete. -/
theorem Closes.closed {behind : List Visit} {closing : List LogEntry}
    (closes : Closes tolerance behind visits run closing) {ending : Ending}
    (ended : run.phase = .ended ending) :
    (ending.outcome = .completed ∧ closing = []) ∨
      (ending.outcome ≠ .completed ∧ ∃ entry, closing = [entry] ∧
        entry.node = some run.node.ref ∧ entry.level = ending.outcome.level) := by
  cases closes with
  | active active => simp [Run.ending?, ended] at active
  | completed other =>
    cases ended.symm.trans other
    exact .inl ⟨rfl, rfl⟩
  | stopped message payload other halts =>
    cases ended.symm.trans other
    exact .inr ⟨StepError.outcome_ne_completed _, _, rfl, rfl, rfl⟩
  | deadEnd other isLast same verdict isResult =>
    cases ended.symm.trans other
    refine .inr ⟨by simp, _, rfl, rfl, ?_⟩
    unfold Run.deadEndLine
    split <;> rfl

/-- An assertion that was done has reported something. -/
theorem Closes.payload_of_deadEnd {behind : List Visit} {closing : List LogEntry}
    (closes : Closes tolerance behind visits run closing) {ending : Ending}
    (ended : run.phase = .ended ending) {node : String} {label : Bool}
    (deadEnd : ending.error = some (.deadEnd node label))
    (reports : ∀ visit ∈ visits, visit.speaks = visit.isTold) :
    ∃ last report after entry, visits = behind ++ [last] ∧ last.node.id = node ∧
      last.result = some (.ok (report, after)) ∧ closing = [entry] ∧
      entry.node = some last.node.ref ∧ entry.payload = report.payload := by
  cases closes with
  | active active => simp [Run.ending?, ended] at active
  | completed other =>
    cases ended.symm.trans other
    cases deadEnd
  | stopped message payload other =>
    cases ended.symm.trans other
    exact absurd deadEnd (StepError.runError_ne_deadEnd _ _ _ _)
  | deadEnd other most same verdict isResult =>
    rename_i last report after
    cases ended.symm.trans other
    cases deadEnd
    have kind : last.node.kind = .assertion := by
      by_contra plain
      rw [last.verdict_eq_none_iff.mpr plain] at verdict
      cases verdict
    have summary := reports last (by simp [most])
    rw [Visit.isTold, kind] at summary
    refine ⟨last, report, after, _, most, congrArg Node.id same, isResult, rfl, ?_, ?_⟩
    · exact congrArg (fun node : Node => some node.ref) same.symm
    · obtain ⟨summary, payload, branch⟩ := report
      cases summary with
      | some summary => rfl
      | none => simp [Visit.speaks, Visit.failed, Visit.finished, Kind.reports, isResult] at summary

theorem Accounts.logs {initial : World} (sound : Sound graph tolerance journey)
    (recording : Recording initial journey) (accounts : Accounts graph tolerance journey) :
    ∃ body closing, Logs graph tolerance journey body closing := by
  obtain ⟨counted, body, closing, log, told, closes⟩ := accounts
  have reports : ∀ visit ∈ journey.visits, visit.speaks = visit.isTold := by
    intro visit member
    obtain ⟨before, after, visits⟩ := List.append_of_mem member
    have admitted := recording.admitted
    rw [visits] at admitted
    exact Visit.speaks_eq_isTold admitted.at
  have member {visit : Visit} (left : visit ∈ graph.behind tolerance journey.visits) :
      visit ∈ journey.visits := by
    rcases behind_cases graph tolerance journey.visits with all | ⟨last, most⟩
    · exact all ▸ left
    · rw [most]
      exact List.mem_append_left [last] left
  refine ⟨body, closing, {
    log
    passed := told.passed
    rest := sound.rest
    told := ?_, active := ?_, completed := ?_, closed := ?_, deadEnd := ?_, errors := ?_ }⟩
  · rw [← List.filter_congr fun visit left => reports visit (member left)]
    exact told.told
  · exact closes.of_active
  · intro id result reported completed
    obtain ⟨ending, ended, outcome, -, -⟩ := ending_of_result reported
    rcases closes.closed ended with ⟨-, nothing⟩ | ⟨incomplete, -⟩
    · exact nothing
    · exact absurd (outcome ▸ completed) incomplete
  · intro id result reported incomplete
    obtain ⟨ending, ended, outcome, -, last⟩ := ending_of_result reported
    rcases closes.closed ended with ⟨completed, -⟩ | ⟨-, entry, only, node, level⟩
    · exact absurd (outcome.trans completed) incomplete
    · exact ⟨entry, journey.run.node.ref, only, node, last, outcome ▸ level⟩
  · intro id result node label reported deadEnd
    obtain ⟨ending, ended, -, error, -⟩ := ending_of_result reported
    exact closes.payload_of_deadEnd ended (error ▸ deadEnd) reports
  · intro id result reported
    obtain ⟨ending, ended, outcome, -, -⟩ := ending_of_result reported
    rw [log, List.countP_append, told.errors, outcome]
    congr
    rcases closes.closed ended with ⟨completed, rfl⟩ | ⟨incomplete, entry, rfl, -, level⟩
    · simp [completed]
    · rw [List.countP_singleton, level]
      cases other : ending.outcome <;> simp [Outcome.level, other] at incomplete ⊢

/-- Whatever happens in a run, its log tells of each step that it has left behind what there is to
tell, in their order, and at the end why it did not complete. -/
theorem build_logs {flow : Flow} {graph : Graph} (built : Graph.build flow = .ok graph)
    (tolerance : UInt32) (epoch : Nat) (vars : Variables) (timeout : UInt64) (now : Nat)
    (transport : Transport) (moves : List Move) :
    ∃ body closing, Logs graph tolerance
      ((start graph tolerance epoch vars timeout now transport).afterAll moves) body closing := by
  obtain ⟨runnable, rfl, member, -⟩ := (Graph.build_eq_ok_iff flow graph).mp built
  have sound := (sound_start member tolerance epoch vars timeout now transport).afterAll runnable
    moves
  have recording := (recording_start graph tolerance epoch vars timeout now transport).afterAll
    (bounded_start graph tolerance epoch vars timeout now transport) moves
  have accounts :=
    accounts_afterAll runnable member tolerance epoch vars timeout now transport moves
  exact accounts.logs sound recording

theorem polling_logs :
    Graph.build .polling = .ok .polling ∧
      (∃ body closing,
        Logs .polling 0 (pollingStart.afterAll pollingMoves) body closing) ∧
      (pollingStart.afterAll pollingMoves).run.log.map (fun entry => (entry.node, entry.level)) =
        [(some ⟨"wait", .delay⟩, .info), (some ⟨"check", .assertion⟩, .info),
          (some ⟨"wait", .delay⟩, .error)] := by
  refine ⟨Graph.build_polling, build_logs Graph.build_polling 0 0 {} 7 0 .offline pollingMoves, ?_⟩
  decide

end Journey

end Scenario
