import Scenario.Proofs.Graph.Exits
import Scenario.Proofs.Run.Step
/-!
What follows from a step.

A step that is not done ends the run, unless it is a failed request that is tolerated. After any
other step the run stands at the next node, has completed, or has met a dead end.
-/
namespace Scenario

/-- The level of the line about a run that did not complete. -/
def Outcome.level : Outcome → Level
  | .cancelled => .info
  | .completed | .timedOut | .failed => .error

namespace StepError

/-- How a run ends that stops at a step which was not done. -/
def outcome : StepError → Outcome
  | .interrupted .cancelled => .cancelled
  | .interrupted .timedOut => .timedOut
  | .requestFailed _ | .invalid _ | .defect _ => .failed

/-- The error that is reported then; cancellation is none. -/
def runError (timeout : UInt64) : StepError → Option RunError
  | .interrupted .cancelled => none
  | .interrupted .timedOut => some (.timedOut timeout)
  | .requestFailed failure => some (.request failure)
  | .invalid fault => some (.invalidStep fault.message)
  | .defect e => some (.defect e.message)

theorem runError_eq_none_iff (e : StepError) (timeout : UInt64) :
    e.runError timeout = none ↔ e.outcome = .cancelled := by
  rcases e with _ | _ | ⟨_ | _⟩ | _ <;> simp [runError, outcome]

theorem outcome_ne_completed (e : StepError) : e.outcome ≠ .completed := by
  rcases e with _ | _ | ⟨_ | _⟩ | _ <;> simp [outcome]

theorem runError_ne_deadEnd (e : StepError) (timeout : UInt64) (node : String) (label : Bool) :
    e.runError timeout ≠ some (.deadEnd node label) := by
  rcases e with _ | _ | ⟨_ | _⟩ | _ <;> simp [runError]

theorem runError_eq_request_iff (e : StepError) (timeout : UInt64) (failure : RequestFailure) :
    e.runError timeout = some (.request failure) ↔ e = .requestFailed failure := by
  rcases e with _ | _ | ⟨_ | _⟩ | _ <;> simp [runError]

end StepError

/-- The context after a step, which is as it was before if the step was not done. -/
def StepResult.contextOr (result : StepResult) (context : Context) : Context :=
  match result with
  | .ok (_, after) => after
  | .error _ => context

namespace Run

def endingOf (run : Run) (now : Nat) (e : StepError) : Ending :=
  ⟨e.outcome, e.runError run.context.timeout, now⟩

theorem stop_eq (run : Run) (now : Nat) (e : StepError) :
    ∃ log, run.stop now e = { run with log, phase := .ended (run.endingOf now e) } := by
  rcases e with _ | _ | ⟨_ | _⟩ | _ <;> exact ⟨_, rfl⟩

@[simp] theorem stop_graph (run : Run) (now : Nat) (e : StepError) :
    (run.stop now e).graph = run.graph := by
  obtain ⟨log, stopped⟩ := run.stop_eq now e
  rw [stopped]

@[simp] theorem stop_context (run : Run) (now : Nat) (e : StepError) :
    (run.stop now e).context = run.context := by
  obtain ⟨log, stopped⟩ := run.stop_eq now e
  rw [stopped]

@[simp] theorem stop_phase (run : Run) (now : Nat) (e : StepError) :
    (run.stop now e).phase = .ended (run.endingOf now e) := by
  obtain ⟨log, stopped⟩ := run.stop_eq now e
  rw [stopped]

theorem stop_log (run : Run) (now : Nat) (e : StepError) :
    ∃ message payload, (run.stop now e).log =
      run.log ++ [run.entryOf now ⟨e.outcome.level, message, payload⟩] := by
  rcases e with _ | _ | ⟨_ | _⟩ | _ <;> exact ⟨_, _, rfl⟩

/-- The run stands at a node and has come so far. -/
def stands (run : Run) (log : List LogEntry) (node : Node) (phase : Phase) : Run :=
  { run with log, node, phase }

theorem advance_cases (run : Run) (runnable : run.graph.flow.Runnable)
    (member : run.node ∈ run.graph.nodes) {branch : Option Bool}
    (fits : branch = none ↔ run.node.kind ≠ .assertion) (now : Nat) (line : Option Line) :
    (∃ edge target log, run.graph.exits run.node.id branch = [edge] ∧
      target ∈ run.graph.nodes ∧ target.id = edge.target ∧
      run.advance now line branch = run.stands log target .ready) ∨
    (∃ log, branch = none ∧ run.graph.exits run.node.id branch = [] ∧
      run.advance now line branch =
        run.stands log run.node (.ended ⟨.completed, none, now⟩)) ∨
    ∃ label log, branch = some label ∧ run.graph.exits run.node.id branch = [] ∧
      run.advance now line branch =
        run.stands log run.node (.ended ⟨.failed, some (.deadEnd run.node.id label), now⟩) := by
  have written : ∃ log, line.elim run (run.write now) = { run with log } := by
    cases line <;> exact ⟨_, rfl⟩
  obtain ⟨log, written⟩ := written
  unfold advance
  rcases Graph.next_cases runnable member fits with ⟨edge, target, only, inside, enters, next⟩ |
    ⟨plain, nothing, next⟩ | ⟨label, verdict, nothing, next⟩
  · rw [next]
    exact .inl ⟨edge, target, log, only, inside, enters, by simp only [written]; rfl⟩
  · rw [next]
    exact .inr (.inl ⟨log, plain, nothing, by simp only [written]; rfl⟩)
  · rw [next]
    exact .inr (.inr ⟨label, _, verdict, nothing, rfl⟩)

theorem ending?_stop (run : Run) (now : Nat) (e : StepError) :
    (run.stop now e).ending? = some (run.endingOf now e) := by
  rw [ending?, stop_phase]

theorem ending?_of_ready {run : Run} (ready : run.phase = .ready) : run.ending? = none := by
  simp [ending?, ready]

theorem ending?_of_suspended {run : Run} {step : Suspended}
    (suspended : run.phase = .suspended step) : run.ending? = none := by
  simp [ending?, suspended]

theorem ending?_of_wake {run : Run} {now wake : Nat} (due : run.wake? now = some wake) :
    run.ending? = none := by
  cases phase : run.phase with
  | ready => exact ending?_of_ready phase
  | suspended step => exact ending?_of_suspended phase
  | ended ending => simp [wake?, phase] at due

theorem ending?_eq_some_iff (run : Run) (ending : Ending) :
    run.ending? = some ending ↔ run.phase = .ended ending := by
  cases phase : run.phase <;> simp [ending?, phase]

theorem advance_eq (run : Run) (now : Nat) (line : Option Line) (branch : Option Bool) :
    ∃ log node phase, run.advance now line branch = run.stands log node phase := by
  unfold advance
  cases run.graph.next run.node branch with
  | error e => exact ⟨_, run.node, _, rfl⟩
  | ok next => cases next <;> cases line <;> exact ⟨_, _, _, rfl⟩

@[simp] theorem advance_graph (run : Run) (now : Nat) (line : Option Line)
    (branch : Option Bool) : (run.advance now line branch).graph = run.graph := by
  obtain ⟨log, node, phase, advanced⟩ := run.advance_eq now line branch
  rw [advanced]
  rfl

@[simp] theorem advance_context (run : Run) (now : Nat) (line : Option Line)
    (branch : Option Bool) : (run.advance now line branch).context = run.context := by
  obtain ⟨log, node, phase, advanced⟩ := run.advance_eq now line branch
  rw [advanced]
  rfl

/-- Where the graph goes on or is over, the line is written as it is; an error takes it in. -/
theorem advance_log (run : Run) (now : Nat) (line : Option Line) (branch : Option Bool) :
    ((run.advance now line branch).log = run.log ++ line.toList.map (run.entryOf now) ∧
      ∀ e, (run.advance now line branch).phase ≠ .ended ⟨.failed, some e, now⟩) ∨
    ∃ e, (run.advance now line branch).phase = .ended ⟨.failed, some e, now⟩ ∧
      (run.advance now line branch).log = run.log ++ [run.entryOf now (deadEndLine line e)] := by
  have written : (line.elim run (run.write now)).log =
      run.log ++ line.toList.map (run.entryOf now) := by
    cases line with
    | none => exact (List.append_nil run.log).symm
    | some line => rfl
  unfold advance
  cases run.graph.next run.node branch with
  | error e => exact .inr ⟨e, rfl, rfl⟩
  | ok next =>
    left
    cases next with
    | none =>
      refine ⟨written, ?_⟩
      intro e ended
      cases ended
    | some node =>
      refine ⟨written, ?_⟩
      intro e ended
      cases ended

theorem advance_phase (run : Run) (now : Nat) (line : Option Line) (branch : Option Bool)
    (phase : Phase) :
    { run with phase }.advance now line branch = run.advance now line branch := by
  unfold advance
  cases run.graph.next run.node branch with
  | error e => rfl
  | ok next => cases next <;> cases line <;> rfl

theorem advance_ending {run : Run} {now : Nat} {line : Option Line} {branch : Option Bool}
    {ending : Ending} (ended : (run.advance now line branch).phase = .ended ending) :
    (ending.outcome = .completed ∨ ending.outcome = .failed) ∧ ending.time = now := by
  unfold advance at ended
  cases next : run.graph.next run.node branch with
  | error e =>
    rw [next] at ended
    cases ended
    exact ⟨.inr rfl, rfl⟩
  | ok target =>
    rw [next] at ended
    cases target with
    | some node => cases ended
    | none =>
      cases ended
      exact ⟨.inl rfl, rfl⟩

theorem proceed_of_error (run : Run) (now : Nat) {e : StepError}
    (own : ∀ failure, e ≠ .requestFailed failure) :
    run.proceed now (.finished (.error e)) = run.stop now e := by
  cases e with
  | requestFailed failure => exact absurd rfl (own failure)
  | invalid fault => rfl
  | interrupted reason => rfl
  | defect e => rfl

/-- A step that is over was done, or was a failed request that is tolerated, or stops the run. -/
theorem proceed_finished_cases (run : Run) (now : Nat) (result : StepResult) :
    (∃ report context, result = .ok (report, context) ∧
      run.proceed now (.finished result) =
        { run with context }.advance now (reportLine report) report.branch) ∨
    (∃ failure, result = .error (.requestFailed failure) ∧ run.tolerated < run.tolerance.toNat ∧
      run.proceed now (.finished result) = { run with tolerated := run.tolerated + 1 }.advance now
        (some (toleratedLine (run.tolerated + 1) run.tolerance failure)) none) ∨
    ∃ e, result = .error e ∧
      (∀ failure, e = .requestFailed failure → run.tolerance.toNat ≤ run.tolerated) ∧
      run.proceed now (.finished result) = run.stop now e := by
  cases result with
  | ok done => exact .inl ⟨done.1, done.2, rfl, rfl⟩
  | error e =>
    by_cases request : ∃ failure, e = .requestFailed failure
    · obtain ⟨failure, rfl⟩ := request
      by_cases tolerable : run.tolerated < run.tolerance.toNat
      · exact .inr (.inl ⟨failure, rfl, tolerable, by rw [proceed, if_pos tolerable]⟩)
      · refine .inr (.inr ⟨_, rfl, fun _ _ => Nat.not_lt.mp tolerable, ?_⟩)
        rw [proceed, if_neg tolerable]
    · have own := not_exists.mp request
      exact .inr (.inr ⟨e, rfl, fun failure same => absurd same (own failure),
        proceed_of_error run now own⟩)

theorem proceed_phase (run : Run) (now : Nat) (progress : Progress) (phase : Phase) :
    { run with phase }.proceed now progress = run.proceed now progress := by
  have stopped (e : StepError) : { run with phase }.stop now e = run.stop now e := by
    rcases e with _ | _ | ⟨_ | _⟩ | _ <;> rfl
  rcases progress with (e | ⟨report, context⟩) | step
  · cases e with
    | requestFailed failure =>
      by_cases tolerable : run.tolerated < run.tolerance.toNat
      · simp only [proceed, tolerable, if_true]
        exact advance_phase { run with tolerated := run.tolerated + 1 } now _ none phase
      · simp only [proceed, tolerable, if_false]
        exact stopped (.requestFailed failure)
    | invalid fault => exact stopped (.invalid fault)
    | interrupted reason => exact stopped (.interrupted reason)
    | defect e => exact stopped (.defect e)
  · exact advance_phase { run with context } now (reportLine report) report.branch phase
  · rfl

/-- A step that is over by itself ends the run as completed or failed, if it ends it. -/
theorem proceed_ending {run : Run} {now : Nat} {result : StepResult} {ending : Ending}
    (own : ∀ reason, result ≠ .error (.interrupted reason))
    (ended : (run.proceed now (.finished result)).phase = .ended ending) :
    (ending.outcome = .completed ∨ ending.outcome = .failed) ∧ ending.time = now := by
  cases result with
  | ok done => exact advance_ending ended
  | error e =>
    cases e with
    | interrupted reason => exact absurd rfl (own reason)
    | invalid fault =>
      cases ended
      exact ⟨.inr rfl, rfl⟩
    | defect e =>
      cases ended
      exact ⟨.inr rfl, rfl⟩
    | requestFailed failure =>
      rw [proceed] at ended
      by_cases tolerable : run.tolerated < run.tolerance.toNat
      · rw [if_pos tolerable] at ended
        exact advance_ending ended
      · rw [if_neg tolerable] at ended
        cases ended
        exact ⟨.inr rfl, rfl⟩

theorem proceed_ne_suspended (run : Run) (now : Nat) (result : StepResult) (step : Suspended) :
    (run.proceed now (.finished result)).phase ≠ .suspended step := by
  intro suspended
  have advanced (run : Run) (line : Option Line) (branch : Option Bool) :
      (run.advance now line branch).phase ≠ .suspended step := by
    intro suspended
    unfold advance at suspended
    cases next : run.graph.next run.node branch with
    | error e =>
      rw [next] at suspended
      cases suspended
    | ok target =>
      rw [next] at suspended
      cases target <;> cases suspended
  rcases proceed_finished_cases run now result with ⟨report, context, rfl, gone⟩ |
    ⟨failure, rfl, -, gone⟩ | ⟨e, rfl, -, gone⟩
  · exact advanced _ _ _ (gone ▸ suspended)
  · exact advanced _ _ _ (gone ▸ suspended)
  · rw [gone, stop_phase] at suspended
    cases suspended

theorem proceed_context (run : Run) (now : Nat) (result : StepResult) :
    (run.proceed now (.finished result)).context = result.contextOr run.context := by
  rcases proceed_finished_cases run now result with ⟨report, context, rfl, gone⟩ |
    ⟨failure, rfl, -, gone⟩ | ⟨e, rfl, -, gone⟩
  · rw [gone, advance_context]
    rfl
  · rw [gone, advance_context]
    rfl
  · rw [gone, stop_context]
    rfl

theorem proceed_graph (run : Run) (now : Nat) (result : StepResult) :
    (run.proceed now (.finished result)).graph = run.graph := by
  rcases proceed_finished_cases run now result with ⟨report, context, rfl, gone⟩ |
    ⟨failure, rfl, -, gone⟩ | ⟨e, rfl, -, gone⟩
  · rw [gone, advance_graph]
  · rw [gone, advance_graph]
  · rw [gone, stop_graph]

/-- A step leaves the graph, the handlers and the bounds of its run as they are. -/
theorem proceed_eq {run : Run} {now : Nat} {result : StepResult} {verdict : Option Bool}
    (leaves : result.Leaves run.context verdict) :
    ∃ context tolerated log node phase,
      run.proceed now (.finished result) = { run with context, tolerated, log, node, phase } ∧
        run.context.SameLimits context := by
  cases result with
  | ok done =>
    obtain ⟨report, context⟩ := done
    obtain ⟨log, node, phase, advanced⟩ :=
      { run with context }.advance_eq now (reportLine report) report.branch
    exact ⟨context, run.tolerated, log, node, phase, advanced, (leaves report context rfl).2⟩
  | error e =>
    by_cases request : ∃ failure, e = .requestFailed failure
    · obtain ⟨failure, rfl⟩ := request
      rw [proceed]
      by_cases tolerable : run.tolerated < run.tolerance.toNat
      · obtain ⟨log, node, phase, advanced⟩ :=
          { run with tolerated := run.tolerated + 1 }.advance_eq now
            (some (toleratedLine (run.tolerated + 1) run.tolerance failure)) none
        rw [if_pos tolerable, advanced]
        exact ⟨run.context, run.tolerated + 1, log, node, phase, rfl, rfl⟩
      · obtain ⟨log, stopped⟩ := run.stop_eq now (.requestFailed failure)
        rw [if_neg tolerable, stopped]
        exact ⟨run.context, run.tolerated, log, run.node, _, rfl, rfl⟩
    · obtain ⟨log, stopped⟩ := run.stop_eq now e
      rw [proceed_of_error run now (not_exists.mp request), stopped]
      exact ⟨run.context, run.tolerated, log, run.node, _, rfl, rfl⟩

end Run

end Scenario
