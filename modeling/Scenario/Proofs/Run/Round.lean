import Scenario.Proofs.Graph.Trail
import Scenario.Proofs.Run.Journey
/-!
Rounds of a run.

In a round a run that stands at a node is refused by its limits, finds no handler, or has the step
of the node carried out by a handler. Here nothing is known of the handlers: they return what they
like, when they like, and leave behind any context. So the nodes that are dispatched in some rounds
depend on the graph alone, and every journey is made of such rounds.
-/
namespace Scenario

inductive Round.Handling where
  | refused (reason : Interruption)
  | unhandled (e : FlowError)
  | returned (result : StepResult)

/-- What comes of a round, when it is over, and the context that the run has then. -/
structure Round where
  handling : Round.Handling
  time : Nat
  context : Context

def Round.dispatches (round : Round) : Bool :=
  match round.handling with
  | .returned _ => true
  | .refused _ | .unhandled _ => false

namespace Graph

/-- Whatever branch is asked for, the next node is the target of an edge that leaves the node. -/
theorem leads_of_next {graph : Graph} {node target : Node} {branch : Option Bool}
    (next : graph.next node branch = .ok (some target)) :
    target ∈ graph.flow.nodes ∧ Flow.Leads graph.flow.edges node.id target.id := by
  unfold Graph.next at next
  obtain ⟨chosen, choice, found⟩ := Success.bind_iff.mp next
  rw [choose_eq] at choice
  cases leaving : (graph.exits node.id branch).head? with
  | none =>
    rw [leaving] at choice
    cases branch with
    | none =>
      cases choice
      cases found
    | some label => cases choice
  | some edge =>
    rw [leaving] at choice
    cases choice
    obtain ⟨present, source⟩ := leaving_of_exits (List.mem_of_mem_head? leaving)
    cases reached : graph.node? edge.target with
    | none => simp [reached] at found
    | some node =>
      simp only [reached] at found
      cases found
      refine ⟨List.mem_of_find?_eq_some reached, edge, present, source, ?_⟩
      have same := List.find?_some reached
      exact Eq.symm (by simpa using same)

end Graph

namespace Run

def handle (run : Run) (now : Nat) : Round.Handling → Run
  | .refused reason => run.stop now (.interrupted reason)
  | .unhandled e => run.stop now (.defect e)
  | .returned result => run.proceed now (.finished result)

def play (run : Run) (round : Round) : Run :=
  match run.ending? with
  | some _ => run
  | none => { run with context := round.context }.handle round.time round.handling

def playAll (run : Run) (rounds : List Round) : Run := rounds.foldl play run

/-- The node whose step is carried out in a round, if one is. -/
def dispatch? (run : Run) (round : Round) : Option Node :=
  if run.ending?.isNone && round.dispatches then some run.node else none

/-- The nodes whose steps are carried out in some rounds, in the order in which they are. -/
def dispatched (run : Run) : List Round → List Node
  | [] => []
  | round :: rounds => (run.dispatch? round).toList ++ (run.play round).dispatched rounds

variable {run : Run} {round : Round} {rounds later : List Round}

theorem playAll_append (run : Run) (rounds later : List Round) :
    run.playAll (rounds ++ later) = (run.playAll rounds).playAll later := List.foldl_append

theorem dispatched_append (run : Run) (rounds later : List Round) :
    run.dispatched (rounds ++ later) =
      run.dispatched rounds ++ (run.playAll rounds).dispatched later := by
  induction rounds generalizing run with
  | nil => rfl
  | cons round rounds ih =>
    rw [List.cons_append, dispatched, dispatched, ih, List.append_assoc]
    rfl

theorem play_of_ended {ending : Ending} (ended : run.ending? = some ending) (round : Round) :
    run.play round = run := by
  unfold play
  rw [ended]

theorem dispatched_of_ended {ending : Ending} (ended : run.ending? = some ending)
    (rounds : List Round) : run.dispatched rounds = [] := by
  induction rounds with
  | nil => rfl
  | cons round rounds ih => simp [dispatched, dispatch?, play_of_ended ended, ended, ih]

/-- A run that goes on is ready at a node to which an edge leads; otherwise it ends. -/
theorem advance_cases_of_any (run : Run) (now : Nat) (line : Option Line) (branch : Option Bool) :
    ((run.advance now line branch).phase = .ready ∧
      (run.advance now line branch).node ∈ run.graph.flow.nodes ∧
      Flow.Leads run.graph.flow.edges run.node.id (run.advance now line branch).node.id) ∨
    ∃ ending, (run.advance now line branch).phase = .ended ending := by
  unfold advance
  cases next : run.graph.next run.node branch with
  | error e => exact .inr ⟨_, rfl⟩
  | ok target =>
    cases target with
    | none => exact .inr ⟨_, rfl⟩
    | some node => exact .inl ⟨rfl, Graph.leads_of_next next⟩

/-- After a step that is over the run is ready at a node to which an edge leads, or it has ended. -/
theorem proceed_cases (run : Run) (now : Nat) (result : StepResult) :
    ((run.proceed now (.finished result)).phase = .ready ∧
      (run.proceed now (.finished result)).node ∈ run.graph.flow.nodes ∧
      Flow.Leads run.graph.flow.edges run.node.id (run.proceed now (.finished result)).node.id) ∨
    ∃ ending, (run.proceed now (.finished result)).phase = .ended ending := by
  rcases proceed_finished_cases run now result with ⟨report, context, rfl, gone⟩ |
    ⟨failure, rfl, -, gone⟩ | ⟨e, rfl, -, gone⟩
  · rw [gone]
    exact advance_cases_of_any _ now _ _
  · rw [gone]
    exact advance_cases_of_any _ now _ _
  · rw [gone]
    exact .inr ⟨_, run.stop_phase now e⟩

theorem handle_graph (run : Run) (now : Nat) (handling : Round.Handling) :
    (run.handle now handling).graph = run.graph := by
  cases handling with
  | refused reason => exact run.stop_graph now (.interrupted reason)
  | unhandled e => exact run.stop_graph now (.defect e)
  | returned result => exact run.proceed_graph now result

theorem play_graph (run : Run) (round : Round) : (run.play round).graph = run.graph := by
  unfold play
  cases run.ending? with
  | some ending => rfl
  | none => exact handle_graph { run with context := round.context } round.time round.handling

/-- A run that has not ended after a round has carried out a step and followed an edge. -/
theorem onward_of_play (active : (run.play round).ending? = none) :
    run.dispatch? round = some run.node ∧ (run.play round).node ∈ run.graph.flow.nodes ∧
      Flow.Leads run.graph.flow.edges run.node.id (run.play round).node.id := by
  cases before : run.ending? with
  | some ending =>
    rw [play_of_ended before, before] at active
    cases active
  | none =>
    cases handling : round.handling with
    | refused reason => simp [play, handle, before, handling, ending?_stop] at active
    | unhandled e => simp [play, handle, before, handling, ending?_stop] at active
    | returned result =>
      have played : run.play round =
          { run with context := round.context }.proceed round.time (.finished result) := by
        simp only [play, handle, before, handling]
      refine ⟨by simp [dispatch?, Round.dispatches, before, handling], ?_⟩
      rw [played] at active ⊢
      rcases proceed_cases { run with context := round.context } round.time result with
        ⟨-, onward⟩ | ⟨ending, ended⟩
      · exact onward
      · simp [ending?, ended] at active

/-- What a run dispatches is a trail through its graph that begins where the run stands. -/
theorem trail_dispatched (member : run.node ∈ run.graph.flow.nodes) (rounds : List Round) :
    run.graph.flow.Trail (run.dispatched rounds) ∧
      ∀ first ∈ (run.dispatched rounds).head?, first = run.node := by
  -- On the rounds: the run goes on where the trail of the other rounds begins, or it has ended.
  induction rounds generalizing run with
  | nil => exact ⟨.nil, by simp [dispatched]⟩
  | cons round rounds ih =>
    rw [dispatched]
    cases after : (run.play round).ending? with
    | some ending =>
      rw [dispatched_of_ended after, List.append_nil]
      unfold dispatch?
      split
      · exact ⟨⟨by simpa using member, .singleton run.node⟩, by simp⟩
      · exact ⟨.nil, by simp⟩
    | none =>
      obtain ⟨dispatches, known, leads⟩ := onward_of_play after
      rw [← play_graph run round] at known
      obtain ⟨trail, first⟩ := ih known
      rw [play_graph] at trail
      rw [dispatches, Option.toList_some, List.singleton_append]
      refine ⟨trail.cons member fun next isFirst => ?_, by simp⟩
      rw [first next isFirst]
      exact leads

theorem playAll_of_ended {ending : Ending} (ended : run.ending? = some ending)
    (rounds : List Round) : run.playAll rounds = run := by
  induction rounds with
  | nil => rfl
  | cons round rounds ih =>
    change (run.play round).playAll rounds = run
    rw [play_of_ended ended]
    exact ih

theorem length_dispatched (active : (run.playAll rounds).ending? = none) :
    (run.dispatched rounds).length = rounds.length := by
  induction rounds generalizing run with
  | nil => rfl
  | cons round rounds ih =>
    change ((run.play round).playAll rounds).ending? = none at active
    cases after : (run.play round).ending? with
    | some ending =>
      rw [playAll_of_ended after, after] at active
      cases active
    | none =>
      rw [dispatched, (onward_of_play after).1]
      simpa using ih active

theorem playAll_snoc (active : (run.playAll rounds).ending? = none) (round : Round) :
    run.playAll (rounds ++ [round]) =
      { run.playAll rounds with context := round.context }.handle round.time round.handling := by
  rw [playAll_append]
  change (run.playAll rounds).play round = _
  rw [play, active]

theorem dispatched_snoc (active : (run.playAll rounds).ending? = none) (round : Round) :
    run.dispatched (rounds ++ [round]) =
      run.dispatched rounds ++ if round.dispatches then [(run.playAll rounds).node] else [] := by
  rw [dispatched_append]
  cases dispatches : round.dispatches <;> simp [dispatched, dispatch?, active, dispatches]

end Run

namespace Journey

/-- The run of a journey is at the end of a round, or in the middle of the next one. -/
inductive Rounded (initial : Run) (journey : Journey) : Prop where
  | between (rounds : List Round) (context : Context) :
    journey.run = { initial.playAll rounds with context } →
    (∀ step, journey.run.phase ≠ .suspended step) →
    journey.visits.map (·.node) = initial.dispatched rounds → Rounded initial journey
  | within (rounds : List Round) (context : Context) (step : Suspended) :
    (initial.playAll rounds).ending? = none →
    journey.run = { initial.playAll rounds with context, phase := .suspended step } →
    journey.visits.map (·.node) = initial.dispatched rounds ++ [journey.run.node] →
    Rounded initial journey

variable {initial : Run} {journey after : Journey}

theorem Rounded.ready (rounded : Rounded initial journey) (ready : journey.run.phase = .ready) :
    ∃ rounds context, (initial.playAll rounds).ending? = none ∧
      journey.run = { initial.playAll rounds with context } ∧
      journey.visits.map (·.node) = initial.dispatched rounds := by
  cases rounded with
  | between rounds context same _ visits =>
    refine ⟨rounds, context, ?_, same, visits⟩
    rw [same] at ready
    have played : (initial.playAll rounds).phase = .ready := ready
    exact Run.ending?_of_ready played
  | within rounds context step active same visits =>
    rw [same] at ready
    cases ready

theorem Rounded.suspended (rounded : Rounded initial journey) {step : Suspended}
    (suspended : journey.run.phase = .suspended step) :
    ∃ rounds context, (initial.playAll rounds).ending? = none ∧
      journey.run = { initial.playAll rounds with context, phase := .suspended step } ∧
      journey.visits.map (·.node) = initial.dispatched rounds ++ [journey.run.node] := by
  cases rounded with
  | between rounds context same never visits => exact absurd suspended (never step)
  | within rounds context other active same visits =>
    have here : other = step := by
      rw [same] at suspended
      cases suspended
      rfl
    subst here
    exact ⟨rounds, context, active, same, visits⟩

/-- A step that is over ends the round in which it was begun. -/
theorem Rounded.finish {rounds : List Round} {context : Context} {phase : Phase}
    (active : (initial.playAll rounds).ending? = none)
    (same : journey.run = { initial.playAll rounds with context, phase }) (result : StepResult)
    (token : Bool) {visits : List Visit}
    (dispatched : visits.map (·.node) = initial.dispatched rounds ++ [journey.run.node]) :
    Rounded initial { journey with
      run := journey.run.proceed journey.now (.finished result), token, visits } := by
  obtain ⟨run, transport, now, other, earlier⟩ := journey
  subst same
  -- The round is played on a run that is still ready, but the phase before does not matter.
  let longer := rounds ++ [⟨.returned result, now, context⟩]
  refine .between longer (initial.playAll longer).context ?_
    (Run.proceed_ne_suspended _ now result) ?_
  · change _ = initial.playAll longer
    rw [Run.playAll_snoc active]
    exact Run.proceed_phase { initial.playAll rounds with context } now (.finished result) phase
  · rw [Run.dispatched_snoc active]
    exact dispatched

theorem Rounded.turn (rounded : Rounded initial journey) (turn : Turn journey after) :
    Rounded initial after := by
  cases turn with
  | refuse ready limit =>
    rename_i reason
    obtain ⟨rounds, context, active, same, visits⟩ := rounded.ready ready
    let longer := rounds ++ [⟨.refused reason, journey.now, context⟩]
    refine .between longer (initial.playAll longer).context ?_ ?_ ?_
    · change _ = initial.playAll longer
      rw [Run.playAll_snoc active, same]
      rfl
    · intro step suspended
      rw [Run.stop_phase] at suspended
      cases suspended
    · rw [Run.dispatched_snoc active, visits]
      exact (List.append_nil _).symm
  | carryOut ready limit leaves own sure =>
    obtain ⟨rounds, context, active, same, visits⟩ := rounded.ready ready
    refine Rounded.finish active same _ journey.token ?_
    rw [List.map_append, visits]
    rfl
  | begin ready limit kind served =>
    rename_i step transport
    obtain ⟨rounds, context, active, same, visits⟩ := rounded.ready ready
    refine .within rounds context step active (by rw [same]) ?_
    rw [List.map_append, visits]
    rfl
  | interrupt suspended limit =>
    obtain ⟨rounds, context, active, same, visits⟩ := rounded.suspended suspended
    exact Rounded.finish active same (.error (.interrupted _)) journey.token
      ((Visit.map_node_settle _ _).trans visits)
  | withdraw suspended limit =>
    obtain ⟨rounds, context, active, same, visits⟩ := rounded.suspended suspended
    exact Rounded.finish active same (.error (.interrupted .cancelled)) true
      ((Visit.map_node_settle _ _).trans visits)
  | finish suspended limit leaves own =>
    obtain ⟨rounds, context, active, same, visits⟩ := rounded.suspended suspended
    exact Rounded.finish active same _ journey.token ((Visit.map_node_settle _ _).trans visits)

theorem Rounded.cancel (rounded : Rounded initial journey) :
    Rounded initial (journey.after .cancel) := by
  cases rounded with
  | between rounds context same never visits =>
    refine .between rounds { context with cancelled := true } ?_ never visits
    exact congrArg Run.cancel same
  | within rounds context step active same visits =>
    refine .within rounds { context with cancelled := true } step active ?_ visits
    exact congrArg Run.cancel same

theorem Rounded.pass (rounded : Rounded initial journey) (duration : Nat) :
    Rounded initial (journey.after (.pass duration)) := by
  cases rounded with
  | between rounds context same never visits => exact .between rounds context same never visits
  | within rounds context step active same visits =>
    exact .within rounds context step active same visits

end Journey

end Scenario
