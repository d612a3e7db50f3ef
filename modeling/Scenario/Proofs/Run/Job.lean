import Scenario.Proofs.Flow.Loading
import Scenario.Proofs.Run.Journey
import Scenario.Proofs.Run.Regular
import Scenario.Run.Result
/-!
How a job ends.

A job is handed over with a text or a document, and then it is looked at and may be cancelled, by
whom and when nobody knows. If its flow cannot be loaded or makes no graph, it has failed before its
first node. Any other job is a regular run.
-/
namespace Scenario

namespace Job

/-- What happens to a job: it is looked at, at some time and with some transport, or cancelled. -/
inductive Event where
  | look (now : Nat) (transport : Transport)
  | cancel

def after (job : Job) : Event → Job
  | .look now transport => (job.poll now transport).1
  | .cancel => job.cancel

def afterAll (job : Job) (events : List Event) : Job := events.foldl after job

/-- The node whose step is started by what happens. -/
def begun? (job : Job) (event : Event) : Option Node :=
  match job, event with
  | .accepted run, .look now _ => if run.begins now then some run.node else none
  | _, _ => none

/-- The nodes whose steps are started, in the order in which they are. -/
def begun (job : Job) : List Event → List Node
  | [] => []
  | event :: events => (job.begun? event).toList ++ (job.after event).begun events

theorem afterAll_rejected (error : RunError) (time : Timestamp) (events : List Event) :
    (rejected error time).afterAll events = .rejected error time ∧
      (rejected error time).begun events = [] := by
  induction events with
  | nil => exact ⟨rfl, rfl⟩
  | cons event events ih => cases event <;> exact ih

theorem exists_afterAll_accepted (run : Run) (events : List Event) :
    ∃ after : Run, (accepted run).afterAll events = .accepted after := by
  induction events generalizing run with
  | nil => exact ⟨run, rfl⟩
  | cons event events ih => cases event <;> exact ih _

theorem afterAll_accepted {run : Run} (regular : run.Regular) (events : List Event) :
    ∃ after : Run, (accepted run).afterAll events = .accepted after ∧ after.Regular := by
  induction events generalizing run with
  | nil => exact ⟨run, rfl, regular⟩
  | cons event events ih =>
    cases event with
    | look now transport => exact ih (regular.poll now transport)
    | cancel => exact ih regular.cancel

/-- No step of the job is started any more. -/
def Halted : Job → Prop
  | .rejected .. => True
  | .accepted run => run.context.cancelled = true ∨ run.ending?.isSome

theorem ending?_poll_of_cancelled {run : Run} (cancelled : run.context.cancelled = true) (now : Nat)
    (transport : Transport) : (run.poll now transport).1.ending?.isSome := by
  have stopped : run.context.limits.interruption? now = some .cancelled :=
    (Limits.interruption?_eq_cancelled_iff _ now).mpr cancelled
  unfold Run.poll
  cases phase : run.phase with
  | ready =>
    simp only [Run.dispatch, stopped]
    rw [Run.ending?_stop]
    rfl
  | suspended step =>
    dsimp only
    rw [Suspended.look_of_interrupted stopped]
    change (run.stop now (.interrupted .cancelled)).ending?.isSome
    rw [Run.ending?_stop]
    rfl
  | ended ending => simp [Run.ending?, phase]

theorem poll_of_ended {run : Run} (ended : run.ending?.isSome) (now : Nat)
    (transport : Transport) : (run.poll now transport).1 = run := by
  obtain ⟨ending, reported⟩ := Option.isSome_iff_exists.mp ended
  rw [Run.poll, (run.ending?_eq_some_iff ending).mp reported]

theorem Halted.after {job : Job} (halted : job.Halted) (event : Event) :
    (job.after event).Halted := by
  cases job with
  | rejected => cases event <;> trivial
  | accepted run =>
    cases event with
    | look now transport =>
      rcases halted with cancelled | ended
      · exact .inr (ending?_poll_of_cancelled cancelled now transport)
      · exact .inr ((poll_of_ended ended now transport).symm ▸ ended)
    | cancel => exact .inl rfl

theorem Halted.begun?_eq {job : Job} (halted : job.Halted) (event : Event) :
    job.begun? event = none := by
  cases job with
  | rejected => cases event <;> rfl
  | accepted run =>
    cases event with
    | cancel => rfl
    | look now transport =>
      have rests : run.begins now = false := by
        unfold Run.begins
        cases phase : run.phase with
        | ready =>
          rcases halted with cancelled | ended
          · rw [(Limits.interruption?_eq_cancelled_iff _ now).mpr cancelled]
            rfl
          · rw [Run.ending?_of_ready phase] at ended
            cases ended
        | suspended | ended => rfl
      rw [begun?, rests]
      rfl

/-- The flow was loaded, but it has not been written yet or makes no graph. -/
def Unrunnable (loaded : Except FlowError (Option Flow)) : Prop :=
  loaded = .ok none ∨
    ∃ flow, loaded = .ok (some flow) ∧ ∀ graph, Graph.build flow ≠ .ok graph

/-- What is reported of a job by its kind, whatever has happened to it since. -/
structure Reports (loaded : Except FlowError (Option Flow)) (job : Job) (begun : List Node)
    (id : RunId) : Prop where
  document : (∃ result message, job.result? id = some result ∧
      result.error = some (.document message)) ↔ ∃ e, loaded = .error e
  graph : (∃ result message, job.result? id = some result ∧
      result.error = some (.graph message)) ↔ Unrunnable loaded
  rejected : (∃ e, loaded = .error e) ∨ Unrunnable loaded → begun = [] ∧ ∃ error time,
    job.result? id = some ⟨id, .failed, none, some error, time, time, {}⟩ ∧
      job.log = [⟨time, .error, error.message, none, none⟩]
  accepted : ¬ ((∃ e, loaded = .error e) ∨ Unrunnable loaded) →
    ∀ result, job.result? id = some result → ∀ error ∈ result.error, error.ArisesInRun
  sane : ∀ result message, job.result? id = some result → result.error ≠ some (.defect message)

/-- Loading tells apart three kinds of flows. -/
theorem loaded_cases (source : Source) :
    (∃ fault, source.load = .error (.document fault)) ∨ Unrunnable source.load ∨
      ∃ flow graph, source.load = .ok (some flow) ∧ Graph.build flow = .ok graph := by
  cases loaded : source.load with
  | error e =>
    obtain ⟨fault, rfl⟩ := Source.fault_of_load loaded
    exact .inl ⟨fault, rfl⟩
  | ok flow =>
    cases flow with
    | none => exact .inr (.inl (.inl rfl))
    | some flow =>
      cases built : Graph.build flow with
      | error fault => exact .inr (.inl (.inr ⟨flow, rfl, by simp [built]⟩))
      | ok graph => exact .inr (.inr ⟨flow, graph, rfl, built⟩)

theorem not_unrunnable_of_error {e : FlowError} : ¬ Unrunnable (.error e) := by
  rintro (none | ⟨flow, some, -⟩)
  · cases none
  · cases some

theorem not_unrunnable_of_build {flow : Flow} {graph : Graph}
    (built : Graph.build flow = .ok graph) : ¬ Unrunnable (.ok (some flow)) := by
  rintro (none | ⟨other, same, rejected⟩)
  · cases none
  · cases same
    exact rejected graph built

theorem graphToRun_of_unrunnable {loaded : Except FlowError (Option Flow)}
    (unrunnable : Unrunnable loaded) : ∃ message, graphToRun loaded = .error (.graph message) := by
  rcases unrunnable with rfl | ⟨flow, rfl, rejected⟩
  · exact ⟨_, rfl⟩
  · cases built : Graph.build flow with
    | error fault => exact ⟨fault.message, by simp [graphToRun, built, Except.mapError,
        RunError.ofFlowError]⟩
    | ok graph => exact absurd built (rejected graph)

theorem reports_of_rejected {loaded : Except FlowError (Option Flow)} {error : RunError}
    (document : (∃ message, error = .document message) ↔ ∃ e, loaded = .error e)
    (graph : (∃ message, error = .graph message) ↔ Unrunnable loaded)
    (sane : ∀ message, error ≠ .defect message) (time : Timestamp) (events : List Event)
    (id : RunId) (cause : (∃ e, loaded = .error e) ∨ Unrunnable loaded) :
    Reports loaded ((rejected error time).afterAll events) ((rejected error time).begun events)
      id := by
  obtain ⟨kept, none⟩ := afterAll_rejected error time events
  rw [kept, none]
  constructor
  · rw [← document]
    constructor
    · rintro ⟨result, message, ⟨⟩, same⟩
      exact ⟨message, by simpa using same⟩
    · rintro ⟨message, rfl⟩
      exact ⟨_, message, rfl, rfl⟩
  · rw [← graph]
    constructor
    · rintro ⟨result, message, ⟨⟩, same⟩
      exact ⟨message, by simpa using same⟩
    · rintro ⟨message, rfl⟩
      exact ⟨_, message, rfl, rfl⟩
  · intro _
    exact ⟨rfl, error, time, rfl, rfl⟩
  · intro other
    exact absurd cause other
  · rintro result message ⟨⟩ same
    exact sane message (by simpa using same)

theorem reports_of_accepted {loaded : Except FlowError (Option Flow)} {run : Run}
    (regular : run.Regular) (events : List Event) (id : RunId)
    (runs : ¬ ((∃ e, loaded = .error e) ∨ Unrunnable loaded)) :
    Reports loaded ((accepted run).afterAll events) ((accepted run).begun events) id := by
  obtain ⟨after, reached, kept⟩ := afterAll_accepted regular events
  rw [reached]
  have arises : ∀ result, (accepted after).result? id = some result →
      ∀ error ∈ result.error, error.ArisesInRun := by
    intro result reported error member
    obtain ⟨ending, ended, rfl⟩ := Option.map_eq_some_iff.mp reported
    exact kept.ends ending ((after.ending?_eq_some_iff ending).mp ended) error member
  constructor
  · constructor
    · rintro ⟨result, message, reported, same⟩
      exact (arises result reported _ same).elim
    · exact fun failed => absurd (.inl failed) runs
  · constructor
    · rintro ⟨result, message, reported, same⟩
      exact (arises result reported _ same).elim
    · exact fun unrunnable => absurd (.inr unrunnable) runs
  · exact fun other => absurd other runs
  · exact fun _ => arises
  · intro result message reported same
    exact arises result reported _ same

/-- Whatever text or document a job is handed over with, and whatever happens to it then: it is
rejected exactly if it has no graph, and its error tells why; otherwise its error is one of a run. -/
theorem reports_of_start (source : Source) (tolerance : UInt32) (epoch : Nat)
    (options : RunOptions) (now : Nat) (events : List Event) (id : RunId) :
    let job := start .standard tolerance epoch options now source.load
    Reports source.load (job.afterAll events) (job.begun events) id := by
  intro job
  rcases loaded_cases source with ⟨fault, failed⟩ | unrunnable | ⟨flow, graph, loaded, built⟩
  · have isJob : job = rejected (.document fault.message) (.ofMillis (epoch + now)) := by
      simp only [job, failed, start, graphToRun, RunError.ofFlowError]
    rw [isJob, failed]
    refine reports_of_rejected ?_ ?_ (by simp) _ events id (.inl ⟨_, rfl⟩)
    · exact iff_of_true ⟨_, rfl⟩ ⟨_, rfl⟩
    · exact iff_of_false (by simp) not_unrunnable_of_error
  · obtain ⟨message, none⟩ := graphToRun_of_unrunnable unrunnable
    have isJob : job = rejected (.graph message) (.ofMillis (epoch + now)) := by
      simp only [job, none, start]
    have loads : ¬ ∃ e, source.load = .error e := by
      rintro ⟨e, failed⟩
      exact not_unrunnable_of_error (failed ▸ unrunnable)
    rw [isJob]
    refine reports_of_rejected ?_ ?_ (by simp) _ events id (.inr unrunnable)
    · exact iff_of_false (by simp) loads
    · exact iff_of_true ⟨_, rfl⟩ unrunnable
  · have isJob : job = accepted
        (.start graph .standard tolerance epoch options.vars options.timeout now) := by
      simp only [job, loaded, start, graphToRun, built, Except.mapError]
    rw [isJob, loaded]
    refine reports_of_accepted (Run.regular_start built _ _ _ _ _) events id ?_
    rintro (⟨e, failed⟩ | unrunnable)
    · cases failed
    · exact not_unrunnable_of_build built unrunnable

end Job

end Scenario
