import Scenario.Proofs.Run.Journey
import Scenario.Run.Result
/-!
The way of a run through its graph.

`Journey.Walks` says which nodes a run visits and how it ends, in terms of the edges of the graph
and the verdicts of its assertions alone. Every journey over a graph that was built walks like
this, whatever its transport answers and whenever it is cancelled. The invariant is
`Journey.Sound`: it ties the phase of the run to the visits so far.
-/
namespace Scenario

/-- The truth of the assertion that was visited, over the variables as they stood then. -/
def Visit.verdict (visit : Visit) : Option Bool := visit.node.step.verdict visit.context.vars

theorem Visit.verdict_eq_none_iff (visit : Visit) :
    visit.verdict = none ↔ visit.node.kind ≠ .assertion :=
  Step.verdict_eq_none_iff visit.node.step visit.context.vars

def Visit.finished (visit : Visit) : Bool :=
  match visit.result with
  | some (.ok _) => true
  | _ => false

def Visit.failed (visit : Visit) : Bool :=
  match visit.result with
  | some (.error (.requestFailed _)) => true
  | _ => false

/-- The last step was done, or it failed as one of the requests whose failure is tolerated. -/
def Passed (tolerance : UInt32) (visits : List Visit) (last : Visit) : Prop :=
  last.finished = true ∨ last.failed = true ∧ visits.countP Visit.failed ≤ tolerance.toNat

namespace Graph

/-- After a visit the graph goes on at the target of the one edge that leaves the node, or of the
one that leaves an assertion with its verdict as label. -/
def Follows (graph : Graph) (visit : Visit) (node : Node) : Prop :=
  ∃ edge, graph.exits visit.node.id visit.verdict = [edge] ∧ node ∈ graph.nodes ∧
    node.id = edge.target

/-- Where a run stands after some visits: at the entry, at the node that follows the last visit,
or still at the last visit, if it was not passed or nothing follows it. -/
inductive StandsAt (graph : Graph) (tolerance : UInt32) (visits : List Visit) : Node → Prop where
  | entry : visits = [] → StandsAt graph tolerance visits graph.entry
  | onward {last : Visit} {node : Node} : visits.getLast? = some last →
    Passed tolerance visits last → graph.Follows last node → StandsAt graph tolerance visits node
  | there {last : Visit} : visits.getLast? = some last →
    (Passed tolerance visits last → ∀ node, ¬ graph.Follows last node) →
    StandsAt graph tolerance visits last.node

end Graph

namespace Journey

/-- The report of the run, as soon as it has ended. -/
def result? (journey : Journey) (id : RunId) : Option RunResult :=
  (Job.accepted journey.run).result? id

structure Walks (graph : Graph) (tolerance : UInt32) (journey : Journey) : Prop where
  first : ∀ visit ∈ journey.visits.head?, visit.node = graph.entry
  neverBack : ∀ visit ∈ journey.visits.tail, visit.node.id ≠ graph.entry.id
  onward : journey.visits.IsChain fun visit next => graph.Follows visit next.node
  completed : ∀ id, (∃ result, journey.result? id = some result ∧ result.outcome = .completed) ↔
    ∃ last, journey.visits.getLast? = some last ∧ last.node.kind ≠ .assertion ∧
      graph.edgesFrom last.node.id = [] ∧ Passed tolerance journey.visits last
  deadEnd : ∀ id node label,
    (∃ result, journey.result? id = some result ∧ result.error = some (.deadEnd node label)) ↔
      ∃ last, journey.visits.getLast? = some last ∧ last.node.id = node ∧
        last.node.kind = .assertion ∧ last.verdict = some label ∧
        ∀ edge ∈ graph.edgesFrom node, edge.label ≠ some label
  lastNode : ∀ id result, journey.result? id = some result →
    ∃ node, result.lastNode = some node.id ∧ graph.StandsAt tolerance journey.visits node
  error : ∀ id result, journey.result? id = some result →
    (result.error = none ↔ result.outcome = .completed ∨ result.outcome = .cancelled)

/-- The node is the one whose step comes next. -/
def Expects (graph : Graph) (tolerance : UInt32) (visits : List Visit) (node : Node) : Prop :=
  visits = [] ∧ node = graph.entry ∨
    ∃ last, visits.getLast? = some last ∧ Passed tolerance visits last ∧ graph.Follows last node

/-- What the phase of a run says about the visits so far. -/
inductive Stands (graph : Graph) (tolerance : UInt32) (visits : List Visit) (node : Node) :
    Phase → Prop where
  | ready : Expects graph tolerance visits node → Stands graph tolerance visits node .ready
  | suspended {last : Visit} {step : Suspended} :
    visits.getLast? = some last → last.node = node → last.verdict = none → last.result = none →
    Stands graph tolerance visits node (.suspended step)
  | refused {e : StepError} {timeout : UInt64} {now : Nat} :
    Expects graph tolerance visits node →
    Stands graph tolerance visits node (.ended ⟨e.outcome, e.runError timeout, now⟩)
  | stopped {last : Visit} {e : StepError} {timeout : UInt64} {now : Nat} :
    visits.getLast? = some last → last.node = node → last.verdict = none →
    ¬ Passed tolerance visits last →
    Stands graph tolerance visits node (.ended ⟨e.outcome, e.runError timeout, now⟩)
  | completed {last : Visit} {now : Nat} :
    visits.getLast? = some last → last.node = node → last.verdict = none →
    Passed tolerance visits last → graph.exits node.id last.verdict = [] →
    Stands graph tolerance visits node (.ended ⟨.completed, none, now⟩)
  | deadEnd {last : Visit} {label : Bool} {now : Nat} :
    visits.getLast? = some last → last.node = node → last.verdict = some label →
    graph.exits node.id last.verdict = [] →
    Stands graph tolerance visits node (.ended ⟨.failed, some (.deadEnd node.id label), now⟩)

structure Sound (graph : Graph) (tolerance : UInt32) (journey : Journey) : Prop where
  graph_eq : journey.run.graph = graph
  registry_eq : journey.run.registry = .standard
  tolerance_eq : journey.run.tolerance = tolerance
  member : journey.run.node ∈ graph.nodes
  first : ∀ visit ∈ journey.visits.head?, visit.node = graph.entry
  onward : journey.visits.IsChain fun visit next => graph.Follows visit next.node
  counted : journey.run.ending? = none →
    journey.run.tolerated = journey.visits.countP Visit.failed
  stands : Stands graph tolerance journey.visits journey.run.node journey.run.phase

variable {graph : Graph} {tolerance : UInt32}

/-- The next visit keeps to the graph, whatever becomes of it. -/
theorem Expects.extend {visits : List Visit} {visit : Visit}
    (first : ∀ visit ∈ visits.head?, visit.node = graph.entry)
    (onward : visits.IsChain fun visit next => graph.Follows visit next.node)
    (expected : Expects graph tolerance visits visit.node) :
    (∀ other ∈ (visits ++ [visit]).head?, other.node = graph.entry) ∧
      (visits ++ [visit]).IsChain fun visit next => graph.Follows visit next.node := by
  rcases expected with ⟨rfl, atEntry⟩ | ⟨last, isLast, -, follows⟩
  · exact ⟨by simpa using atEntry, by simp⟩
  · -- The first visit stays the first one, and the last one is followed.
    have nonempty : visits ≠ [] := by
      rintro rfl
      cases isLast
    refine ⟨by rwa [List.head?_append_of_ne_nil visits nonempty], ?_⟩
    refine onward.append (.singleton visit) ?_
    intro before member after same
    rw [isLast] at member
    cases member
    cases same
    exact follows

theorem keeps_of_settled {before : List Visit} {visit : Visit} (result : Option StepResult)
    (first : ∀ other ∈ (before ++ [visit]).head?, other.node = graph.entry)
    (onward : (before ++ [visit]).IsChain fun visit next => graph.Follows visit next.node) :
    (∀ other ∈ (before ++ [{ visit with result }]).head?, other.node = graph.entry) ∧
      (before ++ [{ visit with result }]).IsChain
        fun visit next => graph.Follows visit next.node := by
  constructor
  · cases before with
    | nil => simpa using first
    | cons head rest => exact first
  · rw [List.isChain_append] at onward ⊢
    obtain ⟨chain, -, joined⟩ := onward
    refine ⟨chain, .singleton _, ?_⟩
    intro last isLast next isNext
    cases isNext
    exact joined last isLast visit rfl

/-- The invariant without the phase, for a run that stands at its last visit. -/
structure AtVisit (graph : Graph) (tolerance : UInt32) (run : Run) (before : List Visit)
    (visit : Visit) : Prop where
  graph_eq : run.graph = graph
  registry_eq : run.registry = .standard
  tolerance_eq : run.tolerance = tolerance
  member : run.node ∈ graph.nodes
  same : visit.node = run.node
  first : ∀ other ∈ (before ++ [visit]).head?, other.node = graph.entry
  onward : (before ++ [visit]).IsChain fun visit next => graph.Follows visit next.node
  counted : run.tolerated = before.countP Visit.failed

variable {run : Run} {before : List Visit} {visit : Visit}

/-- A step that was passed leads along the only exit, or ends the run. -/
theorem AtVisit.advance (runnable : graph.flow.Runnable)
    (at_ : AtVisit graph tolerance run before visit) (context : Context) {tolerated now : Nat}
    {line : Option Line} (transport : Transport) (token : Bool)
    (passed : Passed tolerance (before ++ [visit]) visit)
    (counted : tolerated = (before ++ [visit]).countP Visit.failed) :
    Sound graph tolerance ⟨{ run with context, tolerated }.advance now line visit.verdict,
      transport, now, token, before ++ [visit]⟩ := by
  obtain ⟨rfl, registry_eq, rfl, member, same, first, onward, -⟩ := at_
  have fits : visit.verdict = none ↔ run.node.kind ≠ .assertion := by
    rw [← same]
    exact visit.verdict_eq_none_iff
  have isLast : (before ++ [visit]).getLast? = some visit := List.getLast?_concat
  rcases Run.advance_cases { run with context, tolerated } runnable member fits now line
    with ⟨edge, target, log, only, inside, enters, gone⟩ | ⟨log, plain, nothing, gone⟩ |
      ⟨label, log, verdict, nothing, gone⟩
  · have follows : run.graph.Follows visit target := ⟨edge, same ▸ only, inside, enters⟩
    rw [gone]
    exact ⟨rfl, registry_eq, rfl, inside, first, onward, fun _ => counted,
      .ready (.inr ⟨visit, isLast, passed, follows⟩)⟩
  · rw [gone]
    exact ⟨rfl, registry_eq, rfl, member, first, onward, nofun,
      .completed isLast same plain passed nothing⟩
  · rw [gone]
    exact ⟨rfl, registry_eq, rfl, member, first, onward, nofun,
      .deadEnd isLast same verdict nothing⟩

/-- A step that was not passed ends the run where it stands. -/
theorem AtVisit.stop (at_ : AtVisit graph tolerance run before visit) {e : StepError} {now : Nat}
    (transport : Transport) (token : Bool) (plain : visit.verdict = none)
    (failed : ¬ Passed tolerance (before ++ [visit]) visit) :
    Sound graph tolerance ⟨run.stop now e, transport, now, token, before ++ [visit]⟩ := by
  obtain ⟨log, stopped⟩ := Run.stop_eq run now e
  rw [stopped]
  exact ⟨at_.graph_eq, at_.registry_eq, at_.tolerance_eq, at_.member, at_.first, at_.onward,
    nofun, .stopped List.getLast?_concat at_.same plain failed⟩

theorem not_passed_of_error {visits : List Visit} {visit : Visit} {e : StepError}
    (isResult : visit.result = some (.error e)) (own : ∀ failure, e ≠ .requestFailed failure) :
    ¬ Passed tolerance visits visit := by
  have unfinished : visit.finished = false := by simp [Visit.finished, isResult]
  have unfailed : visit.failed = false := by
    cases e with
    | requestFailed failure => exact absurd rfl (own failure)
    | invalid fault => simp [Visit.failed, isResult]
    | interrupted reason => simp [Visit.failed, isResult]
    | defect e => simp [Visit.failed, isResult]
  simp [Passed, unfinished, unfailed]

/-- A failed request is passed if the failures before it have left some of the tolerance. -/
theorem AtVisit.passed_iff_tolerable (at_ : AtVisit graph tolerance run before visit)
    {failure : RequestFailure} (isResult : visit.result = some (.error (.requestFailed failure))) :
    Passed tolerance (before ++ [visit]) visit ↔ run.tolerated < run.tolerance.toNat := by
  have failed : visit.failed = true := by simp [Visit.failed, isResult]
  have unfinished : visit.finished = false := by simp [Visit.finished, isResult]
  have counted : run.tolerated + 1 = (before ++ [visit]).countP Visit.failed := by
    simp [failed, at_.counted]
  -- This failure is counted by now, so the bound is strict for those before it.
  simp only [Passed, unfinished, failed, ← counted, ← at_.tolerance_eq, Bool.false_eq_true,
    false_or, true_and, Nat.add_one_le_iff]

/-- A visit that has got its result is passed or ends the run. -/
theorem AtVisit.proceed (runnable : graph.flow.Runnable)
    (at_ : AtVisit graph tolerance run before visit) {result : StepResult} {now : Nat}
    (transport : Transport) (token : Bool) (isResult : visit.result = some result)
    (leaves : result.Leaves run.context visit.verdict)
    (sure : visit.verdict ≠ none → ∃ done, result = .ok done) :
    Sound graph tolerance
      ⟨run.proceed now (.finished result), transport, now, token, before ++ [visit]⟩ := by
  have total : (before ++ [visit]).countP Visit.failed =
      before.countP Visit.failed + if visit.failed then 1 else 0 := by
    cases failed : visit.failed <;> simp [failed]
  cases result with
  | ok done =>
    obtain ⟨report, context⟩ := done
    have finished : visit.finished = true := by simp [Visit.finished, isResult]
    have unfailed : visit.failed = false := by simp [Visit.failed, isResult]
    have counted : run.tolerated = (before ++ [visit]).countP Visit.failed := by
      simpa [total, unfailed] using at_.counted
    have branch := (leaves report context rfl).1
    rw [Run.proceed, branch]
    exact at_.advance runnable context transport token (.inl finished) counted
  | error e =>
    -- Only assertions have a verdict, and they never fail.
    have plain : visit.verdict = none := by
      by_contra verdict
      obtain ⟨done, same⟩ := sure verdict
      cases same
    by_cases request : ∃ failure, e = .requestFailed failure
    · obtain ⟨failure, rfl⟩ := request
      have failed : visit.failed = true := by simp [Visit.failed, isResult]
      have counted : run.tolerated + 1 = (before ++ [visit]).countP Visit.failed := by
        simp [total, failed, at_.counted]
      have passed := at_.passed_iff_tolerable isResult
      rw [Run.proceed]
      by_cases tolerable : run.tolerated < run.tolerance.toNat
      · rw [if_pos tolerable, ← plain]
        exact at_.advance runnable run.context transport token (passed.mpr tolerable) counted
      · rw [if_neg tolerable]
        exact at_.stop transport token plain (mt passed.mp tolerable)
    · have own : ∀ failure, e ≠ .requestFailed failure := not_exists.mp request
      rw [Run.proceed_of_error run now own]
      exact at_.stop transport token plain (not_passed_of_error isResult own)

variable {journey : Journey}

theorem Sound.expects (sound : Sound graph tolerance journey) (ready : journey.run.phase = .ready) :
    Expects graph tolerance journey.visits journey.run.node := by
  have stands := sound.stands
  rw [ready] at stands
  cases stands with
  | ready expected => exact expected

/-- A run that is ready visits its node next. -/
theorem Sound.entering (sound : Sound graph tolerance journey)
    (ready : journey.run.phase = .ready) (visit : Visit) (same : visit.node = journey.run.node) :
    AtVisit graph tolerance journey.run journey.visits visit := by
  have expected := sound.expects ready
  rw [← same] at expected
  obtain ⟨first, onward⟩ := expected.extend sound.first sound.onward
  have active : journey.run.ending? = none := Run.ending?_of_ready ready
  exact {
    graph_eq := sound.graph_eq
    registry_eq := sound.registry_eq
    tolerance_eq := sound.tolerance_eq
    member := sound.member
    same, first, onward
    counted := sound.counted active }

/-- A run that is suspended is in the middle of its last visit. -/
theorem Sound.resuming (sound : Sound graph tolerance journey) {step : Suspended}
    (suspended : journey.run.phase = .suspended step) :
    ∃ before last, journey.visits = before ++ [last] ∧ last.verdict = none ∧
      ∀ result, AtVisit graph tolerance journey.run before { last with result } := by
  have stands := sound.stands
  rw [suspended] at stands
  cases stands with
  | suspended isLast same plain pending =>
    rename_i last
    -- A visit without a result has not failed, so it is not counted yet.
    obtain ⟨before, visits⟩ := List.getLast?_eq_some_iff.mp isLast
    have first := sound.first
    have onward := sound.onward
    have active : journey.run.ending? = none := Run.ending?_of_suspended suspended
    have counted := sound.counted active
    have unfailed : last.failed = false := by simp [Visit.failed, pending]
    rw [visits] at first onward counted
    refine ⟨before, last, visits, plain, fun result => ?_⟩
    obtain ⟨first, onward⟩ := keeps_of_settled result first onward
    exact {
      graph_eq := sound.graph_eq
      registry_eq := sound.registry_eq
      tolerance_eq := sound.tolerance_eq
      member := sound.member
      same, first, onward
      counted := by simpa [unfailed] using counted }

theorem Sound.turn (runnable : graph.flow.Runnable) {after : Journey}
    (sound : Sound graph tolerance journey) (turn : Turn journey after) :
    Sound graph tolerance after := by
  cases turn with
  | refuse ready limit =>
    rename_i reason
    obtain ⟨log, stopped⟩ := Run.stop_eq journey.run journey.now (.interrupted reason)
    rw [stopped]
    exact ⟨sound.graph_eq, sound.registry_eq, sound.tolerance_eq, sound.member, sound.first,
      sound.onward, nofun, .refused (sound.expects ready)⟩
  | carryOut ready limit leaves own sure =>
    rename_i result
    have at_ := sound.entering ready
      ⟨journey.run.node, journey.now, journey.run.context, some result⟩ rfl
    refine at_.proceed runnable journey.transport journey.token rfl leaves ?_
    intro verdict
    rw [ne_eq, Visit.verdict_eq_none_iff, not_not] at verdict
    exact sure verdict
  | begin ready limit kind served =>
    rename_i step transport
    have at_ := sound.entering ready
      ⟨journey.run.node, journey.now, journey.run.context, none⟩ rfl
    refine ⟨sound.graph_eq, sound.registry_eq, sound.tolerance_eq, sound.member, at_.first,
      at_.onward, fun _ => ?_, .suspended List.getLast?_concat rfl ?_ rfl⟩
    · simpa [Visit.failed] using at_.counted
    · exact (Visit.verdict_eq_none_iff _).mpr kind
  | interrupt suspended limit =>
    rename_i step reason
    obtain ⟨before, last, visits, plain, at_⟩ := sound.resuming suspended
    rw [visits, Visit.settle_append]
    exact (at_ _).stop journey.transport journey.token plain (not_passed_of_error rfl nofun)
  | withdraw suspended limit =>
    obtain ⟨before, last, visits, plain, at_⟩ := sound.resuming suspended
    rw [visits, Visit.settle_append]
    exact (at_ _).stop journey.transport true plain (not_passed_of_error rfl nofun)
  | finish suspended limit leaves own =>
    rename_i step result
    obtain ⟨before, last, visits, plain, at_⟩ := sound.resuming suspended
    rw [visits, Visit.settle_append]
    refine (at_ (some result)).proceed runnable journey.transport journey.token rfl ?_ ?_
    · exact plain ▸ leaves
    · exact fun verdict => absurd plain verdict

theorem Sound.cancel (sound : Sound graph tolerance journey) :
    Sound graph tolerance (journey.after .cancel) :=
  ⟨sound.graph_eq, sound.registry_eq, sound.tolerance_eq, sound.member, sound.first, sound.onward,
    sound.counted, sound.stands⟩

theorem Sound.pass (sound : Sound graph tolerance journey) (duration : Nat) :
    Sound graph tolerance (journey.after (.pass duration)) :=
  ⟨sound.graph_eq, sound.registry_eq, sound.tolerance_eq, sound.member, sound.first, sound.onward,
    sound.counted, sound.stands⟩

theorem Sound.afterAll (runnable : graph.flow.Runnable)
    (sound : Sound graph tolerance journey) (moves : List Move) :
    Sound graph tolerance (journey.afterAll moves) :=
  afterAll_invariant (fun _ sound => sound.registry_eq)
    (fun _ _ sound turn => sound.turn runnable turn) (fun _ sound => sound.cancel)
    (fun _ duration sound => sound.pass duration) sound moves

theorem sound_start (member : graph.entry ∈ graph.nodes) (tolerance : UInt32) (epoch : Nat)
    (vars : Variables) (timeout : UInt64) (now : Nat) (transport : Transport) :
    Sound graph tolerance (start graph tolerance epoch vars timeout now transport) where
  graph_eq := rfl
  registry_eq := rfl
  tolerance_eq := rfl
  member := member
  first := by simp [start]
  onward := .nil
  counted _ := rfl
  stands := .ready (.inl ⟨rfl, rfl⟩)

theorem ending_of_result {id : RunId} {result : RunResult}
    (reported : journey.result? id = some result) :
    ∃ ending, journey.run.phase = .ended ending ∧ result.outcome = ending.outcome ∧
      result.error = ending.error ∧ result.lastNode = some journey.run.node.id := by
  cases phase : journey.run.phase with
  | ready => simp [result?, Job.result?, Run.ending?, phase] at reported
  | suspended step => simp [result?, Job.result?, Run.ending?, phase] at reported
  | ended ending =>
    simp only [result?, Job.result?, Run.ending?, phase, Option.map_some,
      Option.some.injEq] at reported
    subst reported
    exact ⟨ending, rfl, rfl, rfl, rfl⟩

theorem result_of_ended {ending : Ending} (ended : journey.run.phase = .ended ending)
    (id : RunId) :
    ∃ result, journey.result? id = some result ∧ result.outcome = ending.outcome ∧
      result.error = ending.error := by
  simp [result?, Job.result?, Run.ending?, ended]

theorem exits_some_eq_nil_iff (graph : Graph) (id : String) (label : Bool) :
    graph.exits id (some label) = [] ↔ ∀ edge ∈ graph.edgesFrom id, edge.label ≠ some label := by
  simp [Graph.exits]

theorem Expects.exits_ne_nil {visits : List Visit} {node : Node} {last : Visit}
    (expected : Expects graph tolerance visits node) (isLast : visits.getLast? = some last) :
    graph.exits last.node.id last.verdict ≠ [] := by
  rcases expected with ⟨rfl, -⟩ | ⟨other, same, -, edge, only, -⟩
  · cases isLast
  · rw [same] at isLast
    cases isLast
    simp [only]

theorem not_follows_of_exits {last : Visit}
    (nothing : graph.exits last.node.id last.verdict = []) (node : Node) :
    ¬ graph.Follows last node := by
  rintro ⟨edge, only, -⟩
  simp [nothing] at only

theorem Sound.completed_iff (sound : Sound graph tolerance journey) :
    (∃ ending, journey.run.phase = .ended ending ∧ ending.outcome = .completed) ↔
      ∃ last, journey.visits.getLast? = some last ∧ last.node.kind ≠ .assertion ∧
        graph.edgesFrom last.node.id = [] ∧ Passed tolerance journey.visits last := by
  have stands := sound.stands
  constructor
  · rintro ⟨ending, ended, completed⟩
    rw [ended] at stands
    cases stands with
    | refused expected => exact absurd completed (StepError.outcome_ne_completed _)
    | stopped isLast same plain failed => exact absurd completed (StepError.outcome_ne_completed _)
    | completed isLast same plain passed nothing =>
      rw [← same, plain] at nothing
      exact ⟨_, isLast, (Visit.verdict_eq_none_iff _).mp plain, nothing, passed⟩
    | deadEnd isLast same verdict nothing => cases completed
  · -- Where the run could have gone on or was stopped, no such visit is the last one.
    rintro ⟨last, isLast, kind, nothing, passed⟩
    have plain := last.verdict_eq_none_iff.mpr kind
    have noExit : graph.exits last.node.id last.verdict = [] := by rw [plain]; exact nothing
    generalize phase : journey.run.phase = reached at stands
    cases stands with
    | ready expected => exact absurd noExit (expected.exits_ne_nil isLast)
    | refused expected => exact absurd noExit (expected.exits_ne_nil isLast)
    | suspended atLast same unasked pending =>
      cases isLast.symm.trans atLast
      simp [Passed, Visit.finished, Visit.failed, pending] at passed
    | stopped atLast same unasked failed =>
      cases isLast.symm.trans atLast
      exact absurd passed failed
    | completed => exact ⟨_, rfl, rfl⟩
    | deadEnd atLast same verdict =>
      cases isLast.symm.trans atLast
      rw [plain] at verdict
      cases verdict

theorem Sound.deadEnd_iff (sound : Sound graph tolerance journey) (node : String)
    (label : Bool) :
    (∃ ending, journey.run.phase = .ended ending ∧
        ending.error = some (.deadEnd node label)) ↔
      ∃ last, journey.visits.getLast? = some last ∧ last.node.id = node ∧
        last.node.kind = .assertion ∧ last.verdict = some label ∧
        ∀ edge ∈ graph.edgesFrom node, edge.label ≠ some label := by
  have stands := sound.stands
  constructor
  · rintro ⟨ending, ended, error⟩
    rw [ended] at stands
    cases stands with
    | refused expected => exact absurd error (StepError.runError_ne_deadEnd _ _ _ _)
    | stopped isLast same plain failed =>
      exact absurd error (StepError.runError_ne_deadEnd _ _ _ _)
    | completed => cases error
    | deadEnd isLast same verdict nothing =>
      rename_i last _ _
      cases error
      have kind : last.node.kind = .assertion := by
        by_contra other
        rw [last.verdict_eq_none_iff.mpr other] at verdict
        cases verdict
      rw [verdict, exits_some_eq_nil_iff] at nothing
      exact ⟨last, isLast, congrArg Node.id same, kind, verdict, nothing⟩
  · rintro ⟨last, isLast, rfl, kind, verdict, nothing⟩
    have noExit : graph.exits last.node.id last.verdict = [] := by
      rw [verdict]
      exact (exits_some_eq_nil_iff graph last.node.id label).mpr nothing
    generalize phase : journey.run.phase = reached at stands
    cases stands with
    | ready expected => exact absurd noExit (expected.exits_ne_nil isLast)
    | refused expected => exact absurd noExit (expected.exits_ne_nil isLast)
    | suspended atLast same plain =>
      cases isLast.symm.trans atLast
      cases plain.symm.trans verdict
    | stopped atLast same plain =>
      cases isLast.symm.trans atLast
      cases plain.symm.trans verdict
    | completed atLast same plain =>
      cases isLast.symm.trans atLast
      cases plain.symm.trans verdict
    | deadEnd atLast same other =>
      cases isLast.symm.trans atLast
      cases other.symm.trans verdict
      exact ⟨_, rfl, by rw [same]⟩

theorem Sound.standsAt (sound : Sound graph tolerance journey) {ending : Ending}
    (ended : journey.run.phase = .ended ending) :
    graph.StandsAt tolerance journey.visits journey.run.node := by
  have stands := sound.stands
  rw [ended] at stands
  generalize journey.run.node = node at stands
  cases stands with
  | refused expected =>
    rcases expected with ⟨none, rfl⟩ | ⟨last, isLast, passed, follows⟩
    · exact .entry none
    · exact .onward isLast passed follows
  | stopped isLast same plain failed =>
    exact same ▸ .there isLast fun passed => absurd passed failed
  | completed isLast same plain passed nothing =>
    subst same
    exact .there isLast fun _ => not_follows_of_exits nothing
  | deadEnd isLast same verdict nothing =>
    subst same
    exact .there isLast fun _ => not_follows_of_exits nothing

theorem Sound.error_iff (sound : Sound graph tolerance journey) {ending : Ending}
    (ended : journey.run.phase = .ended ending) :
    ending.error = none ↔ ending.outcome = .completed ∨ ending.outcome = .cancelled := by
  have stands := sound.stands
  rw [ended] at stands
  cases stands with
  | refused expected =>
    simp [StepError.runError_eq_none_iff, StepError.outcome_ne_completed]
  | stopped isLast same plain failed =>
    simp [StepError.runError_eq_none_iff, StepError.outcome_ne_completed]
  | completed => simp
  | deadEnd => simp

/-- Every visit but the first follows another one, so no edge is without a source. -/
theorem Sound.neverBack (sound : Sound graph tolerance journey)
    (unentered : graph.flow.Unentered graph.entry) :
    ∀ visit ∈ journey.visits.tail, visit.node.id ≠ graph.entry.id := by
  intro visit member
  obtain ⟨index, bound, rfl⟩ := List.mem_iff_getElem.mp member
  rw [List.length_tail] at bound
  have follows := List.isChain_iff_getElem.mp sound.onward index (by omega)
  obtain ⟨edge, only, -, enters⟩ := follows
  have present : edge ∈ graph.flow.edges :=
    Graph.mem_of_exits (only ▸ List.mem_singleton_self edge)
  rw [List.getElem_tail, enters]
  exact unentered edge present

theorem Sound.walks (sound : Sound graph tolerance journey)
    (unentered : graph.flow.Unentered graph.entry) : journey.Walks graph tolerance where
  first := sound.first
  neverBack := sound.neverBack unentered
  onward := sound.onward
  completed id := by
    rw [← sound.completed_iff]
    constructor
    · rintro ⟨result, reported, completed⟩
      obtain ⟨ending, ended, outcome, -⟩ := ending_of_result reported
      exact ⟨ending, ended, outcome ▸ completed⟩
    · rintro ⟨ending, ended, completed⟩
      obtain ⟨result, reported, outcome, -⟩ := result_of_ended ended id
      exact ⟨result, reported, outcome.trans completed⟩
  deadEnd id node label := by
    rw [← sound.deadEnd_iff]
    constructor
    · rintro ⟨result, reported, failed⟩
      obtain ⟨ending, ended, -, error, -⟩ := ending_of_result reported
      exact ⟨ending, ended, error ▸ failed⟩
    · rintro ⟨ending, ended, failed⟩
      obtain ⟨result, reported, -, error⟩ := result_of_ended ended id
      exact ⟨result, reported, error.trans failed⟩
  lastNode id result reported := by
    obtain ⟨ending, ended, -, -, last⟩ := ending_of_result reported
    exact ⟨journey.run.node, last, sound.standsAt ended⟩
  error id result reported := by
    obtain ⟨ending, ended, outcome, error, -⟩ := ending_of_result reported
    rw [outcome, error]
    exact sound.error_iff ended

/-- Whatever the transport answers, and whenever the run is cancelled or looked at, it keeps to
the way that its graph prescribes. -/
theorem afterAll_walks {flow : Flow} {graph : Graph} (built : Graph.build flow = .ok graph)
    (tolerance : UInt32) (epoch : Nat) (vars : Variables) (timeout : UInt64) (now : Nat)
    (transport : Transport) (moves : List Move) :
    ((start graph tolerance epoch vars timeout now transport).afterAll moves).Walks graph
      tolerance := by
  obtain ⟨runnable, rfl, member, unentered⟩ := (Graph.build_eq_ok_iff flow graph).mp built
  refine Sound.walks ?_ unentered
  exact afterAll_invariant (fun journey sound => sound.registry_eq)
    (fun before after sound turn => sound.turn runnable turn)
    (fun journey sound => sound.cancel)
    (fun journey duration sound => sound.pass duration)
    (sound_start member tolerance epoch vars timeout now transport) moves

theorem polling_walks :
    Graph.build .polling = .ok .polling ∧ (pollingStart.afterAll pollingMoves).Walks .polling 0 :=
  ⟨Graph.build_polling, afterAll_walks Graph.build_polling 0 0 {} 7 0 .offline pollingMoves⟩

end Journey

end Scenario
