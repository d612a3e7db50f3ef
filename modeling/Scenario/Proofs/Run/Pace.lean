import Scenario.Proofs.Run.Complete
import Scenario.Proofs.Run.Round
/-!
How long a run can be.

No handler makes a run come back to a node other than through an assertion, so the number of its
assertions bounds the number of its steps. Over a flow without a cycle every node has one turn at
most, and a run that is carried out by itself ends.
-/
namespace Scenario

structure Flow.Paced (flow : Flow) (nodes : List Node) : Prop where
  parted : Parted nodes
  bounded : nodes.length ≤ (branchings nodes + 1) * flow.nodes.length
  once : flow.Acyclic → (nodes.map (·.id)).Nodup

theorem Flow.Trail.paced {flow : Flow} {nodes : List Node} (trail : flow.Trail nodes)
    (runnable : flow.Runnable) : flow.Paced nodes where
  parted := trail.parted runnable
  bounded := trail.length_le_of_branchings runnable
  once := trail.nodup_of_acyclic

/-- A flow in which every node is visited once. -/
def Flow.greeting : Flow where
  nodes :=
    [⟨"name", .assignment ⟨"name", .string "Ada"⟩, {}⟩,
      ⟨"greet", .output (.string "Hello ${name}"), {}⟩]
  edges := [⟨"e0", "name", "greet", none, {}⟩]

def Graph.greeting : Graph where
  flow := .greeting
  entry := ⟨"name", .assignment ⟨"name", .string "Ada"⟩, {}⟩

theorem Flow.acyclic_of_plain {flow : Flow} (runnable : flow.Runnable)
    (plain : ∀ node ∈ flow.nodes, node.kind ≠ .assertion) : flow.Acyclic := by
  rintro ⟨id, cycle⟩
  refine runnable.acyclic ⟨id, Relation.TransGen.mono ?_ _ _ cycle⟩
  rintro source target ⟨edge, present, rfl, rfl⟩
  obtain ⟨node, member, same⟩ := runnable.sources edge present
  exact ⟨⟨node, member, same, plain node member⟩, edge, present, rfl, rfl⟩

namespace Journey

variable {deadline : Nat} {timeout : UInt64} {journey : Journey}

/-- What a look has achieved after which the run goes on: a step was started, or one that waited
is over or has to wait for a later time. -/
inductive Onward (journey after : Journey) : Prop where
  | started : journey.run.phase = .ready → after.visits.length = journey.visits.length + 1 →
    Onward journey after
  | finished {step : Suspended} : journey.run.phase = .suspended step → after.run.phase = .ready →
    after.visits.length = journey.visits.length → Onward journey after
  | waits {step : Suspended} : journey.run.phase = .suspended step →
    after.run.phase = .suspended step → after.visits.length = journey.visits.length →
    journey.now < step.wake after.run.context.limits journey.now → Onward journey after

theorem length_settle (visits : List Visit) (result : StepResult) :
    (Visit.settle visits result).length = visits.length := by
  simpa only [List.length_map] using congrArg List.length (Visit.map_node_settle visits result)

theorem length_look_of_suspended {step : Suspended}
    (suspended : journey.run.phase = .suspended step) :
    (journey.after .look).visits.length = journey.visits.length := by
  rw [after_look_of_suspended suspended]
  cases step.look journey.run.context journey.now with
  | finished result => exact length_settle journey.visits result
  | suspended step => rfl

theorem look_onward (standard : journey.run.registry = .standard)
    (active : (journey.after .look).run.ending? = none) : Onward journey (journey.after .look) := by
  cases phase : journey.run.phase with
  | ended ending => simp [after_look_of_ended phase, Run.ending?, phase] at active
  | ready =>
    refine .started phase ?_
    cases limit : journey.run.context.limits.interruption? journey.now with
    | some reason => simp [after_look_of_refused phase limit, Run.ending?_stop] at active
    | none =>
      rcases Step.start_of_free limit with ⟨result, done, -⟩ | ⟨step, transport, waits, -⟩
      · rw [after_look_of_done standard phase limit done]
        exact List.length_append
      · rw [after_look_of_waiting standard phase limit waits, length_look_of_suspended rfl]
        exact List.length_append
  | suspended step =>
    have same := length_look_of_suspended phase
    have looked := after_look_of_suspended phase
    cases seen : step.look journey.run.context journey.now with
    | finished result =>
      rw [looked, seen] at active same ⊢
      rcases Run.proceed_cases journey.run journey.now result with ⟨ready, -⟩ | ⟨ending, ended⟩
      · exact .finished phase ready same
      · simp [Run.ending?, ended] at active
    | suspended other =>
      obtain ⟨rfl, later⟩ := Suspended.wake_of_look seen
      rw [looked, seen] at same ⊢
      exact .waits phase rfl same later

/-- How often a run can still be looked at, if it visits so many nodes at most. -/
def looksLeft (bound deadline : Nat) (journey : Journey) : Nat :=
  2 * (bound - journey.visits.length) + (deadline - journey.now) +
    match journey.run.phase with
    | .suspended _ => 1
    | .ready | .ended _ => 0

theorem lt_nextLook {cancelAt : Option Nat} {now wake : Nat} (later : now < wake) :
    now < nextLook cancelAt now wake := by
  unfold nextLook
  cases cancelAt with
  | none => exact later
  | some time =>
    dsimp only
    split <;> omega

theorem Onward.looksLeft_lt {bound : Nat} {after : Journey} (onward : Onward journey after)
    (fits : after.visits.length ≤ bound) (inTime : journey.now < deadline)
    (unmoved : after.now = journey.now) {cancelAt : Option Nat} {wake duration : Nat}
    (due : after.run.wake? journey.now = some wake)
    (arrives : journey.now + duration = nextLook cancelAt journey.now wake) :
    (after.after (.pass duration)).looksLeft bound deadline <
      journey.looksLeft bound deadline := by
  have atMostOne (phase : Phase) :
      (match phase with | .suspended _ => 1 | .ready | .ended _ => 0) ≤ 1 := by
    cases phase <;> simp
  unfold looksLeft
  dsimp only [Journey.after]
  rw [unmoved]
  cases onward with
  | started ready more =>
    have bit := atMostOne after.run.phase
    rw [ready]
    dsimp only
    omega
  | finished waited ready same =>
    rw [waited, ready]
    dsimp only
    omega
  | waits waited waits same later =>
    rename_i step
    have isWake : step.wake after.run.context.limits journey.now = wake := by
      simpa [Run.wake?, waits] using due
    have moved : journey.now < nextLook cancelAt journey.now wake := lt_nextLook (isWake ▸ later)
    rw [waited, waits]
    dsimp only
    omega

theorem wake?_eq_none_iff (run : Run) (now : Nat) :
    run.wake? now = none ↔ run.ending? ≠ none := by
  cases phase : run.phase <;> simp [Run.wake?, Run.ending?, phase]

/-- A run that visits no more than so many nodes ends, if it is looked at often enough. -/
theorem Bounded.complete_ends (bounded : Bounded deadline timeout journey) {bound : Nat}
    (fits : ∀ moves, (journey.afterAll moves).visits.length ≤ bound) (cancelAt : Option Nat)
    {fuel : Nat} (enough : journey.looksLeft bound deadline < fuel) :
    (Run.complete cancelAt fuel journey.now journey.run journey.transport).2.1.ending? ≠ none := by
  -- On the fuel: after each look the run has ended or fewer looks are left, the time included.
  induction fuel generalizing journey with
  | zero => cases enough
  | succ fuel ih =>
    have asked := bounded.afterAll (beforeLook cancelAt journey.now)
    have fitsLater (moves : List Move) := fits (beforeLook cancelAt journey.now ++ moves)
    have kept : (journey.afterAll (beforeLook cancelAt journey.now)).now = journey.now ∧
        (journey.afterAll (beforeLook cancelAt journey.now)).looksLeft bound deadline =
          journey.looksLeft bound deadline := by
      unfold beforeLook
      split <;> exact ⟨rfl, rfl⟩
    obtain ⟨now, left⟩ := kept
    have step := bounded.complete_cases cancelAt fuel
    simp only [afterAll_append] at fitsLater
    generalize journey.afterAll (beforeLook cancelAt journey.now) = before at *
    dsimp only at step
    rcases step with ⟨due, same⟩ | ⟨wake, due, early, duration, arrives, -, same⟩
    · rw [same]
      exact (wake?_eq_none_iff _ _).mp due
    · have onward := look_onward asked.registry_eq (Run.ending?_of_wake due)
      rw [← now] at due early arrives
      have less := onward.looksLeft_lt (fitsLater [.look]) early rfl due arrives
      rw [same]
      exact ih ((asked.afterAll [.look]).pass duration)
        (fun moves => fitsLater (.look :: .pass duration :: moves)) (by omega)

/-- The nodes that a journey visits are those that its run dispatches in some rounds. -/
theorem exists_rounds (graph : Graph) (tolerance : UInt32) (epoch : Nat) (vars : Variables)
    (timeout : UInt64) (now : Nat) (transport : Transport) (moves : List Move) :
    ∃ rounds,
      ((start graph tolerance epoch vars timeout now transport).afterAll moves).visits.map (·.node) =
        (Run.start graph .standard tolerance epoch vars timeout now).dispatched rounds := by
  have bounded := bounded_start graph tolerance epoch vars timeout now transport
  have rounded : Rounded (.start graph .standard tolerance epoch vars timeout now)
      (start graph tolerance epoch vars timeout now transport) :=
    .between [] (.start vars timeout now) rfl (fun step suspended => by cases suspended) rfl
  obtain ⟨-, held⟩ := afterAll_invariant
    (p := fun later => Bounded (now + timeout.toNat) timeout later ∧
      Rounded (.start graph .standard tolerance epoch vars timeout now) later)
    (fun _ held => held.1.registry_eq)
    (fun _ _ held turn => ⟨held.1.turn turn, held.2.turn turn⟩)
    (fun _ held => ⟨held.1.cancel, held.2.cancel⟩)
    (fun _ duration held => ⟨held.1.pass duration, held.2.pass duration⟩)
    ⟨bounded, rounded⟩ moves
  cases held with
  | between rounds context same never visits => exact ⟨rounds, visits⟩
  | within rounds context step active same visits =>
    -- The step that goes on was dispatched, whatever comes of it.
    refine ⟨rounds ++ [⟨.returned (.error (.interrupted .cancelled)), now, context⟩], ?_⟩
    rw [visits, Run.dispatched_snoc active, same]
    rfl

/-- The nodes that are dispatched in a run of a graph, whatever its handlers return and whatever
happens to it; and a run over a flow without cycles ends. -/
theorem build_paced {flow : Flow} {graph : Graph} (built : Graph.build flow = .ok graph)
    (tolerance : UInt32) (epoch : Nat) (vars : Variables) (timeout : UInt64) (now : Nat) :
    (∀ registry rounds,
      let run := Run.start graph registry tolerance epoch vars timeout now
      flow.Paced (run.dispatched rounds) ∧
        (flow.Acyclic → flow.nodes.length < rounds.length →
          (run.playAll rounds).ending? ≠ none)) ∧
    (∀ transport moves, flow.Paced
      (((start graph tolerance epoch vars timeout now transport).afterAll moves).visits.map
        (·.node))) ∧
    (flow.Acyclic → ∀ transport cancelAt fuel, 2 * flow.nodes.length + timeout.toNat < fuel →
      (Run.complete cancelAt fuel now (.start graph .standard tolerance epoch vars timeout now)
        transport).2.1.ending? ≠ none) := by
  obtain ⟨runnable, rfl, member, -⟩ := (Graph.build_eq_ok_iff flow graph).mp built
  have trail (registry : Registry) (rounds : List Round) : graph.flow.Trail
      ((Run.start graph registry tolerance epoch vars timeout now).dispatched rounds) := by
    let run := Run.start graph registry tolerance epoch vars timeout now
    have inside : run.node ∈ run.graph.flow.nodes := member
    exact (Run.trail_dispatched inside rounds).1
  have visited (transport : Transport) (moves : List Move) : graph.flow.Trail
      (((start graph tolerance epoch vars timeout now transport).afterAll moves).visits.map
        (·.node)) := by
    obtain ⟨rounds, same⟩ := exists_rounds graph tolerance epoch vars timeout now transport moves
    rw [same]
    exact trail .standard rounds
  refine ⟨fun registry rounds => ⟨(trail registry rounds).paced runnable, ?_⟩,
    fun transport moves => (visited transport moves).paced runnable, ?_⟩
  · intro acyclic more active
    have once := (trail registry rounds).length_le
      ((trail registry rounds).nodup_of_acyclic acyclic)
    rw [Run.length_dispatched active] at once
    omega
  · intro acyclic transport cancelAt fuel enough
    have bounded := bounded_start graph tolerance epoch vars timeout now transport
    have fits (moves : List Move) : ((start graph tolerance epoch vars timeout now
        transport).afterAll moves).visits.length ≤ graph.flow.nodes.length := by
      have path := visited transport moves
      simpa using path.length_le (path.nodup_of_acyclic acyclic)
    refine bounded.complete_ends fits cancelAt ?_
    simp only [looksLeft, start, Run.start, List.length_nil]
    omega

theorem polling_paced :
    Graph.build .polling = .ok .polling ∧
      Flow.polling.Paced ((pollingStart.afterAll pollingMoves).visits.map (·.node)) ∧
      Graph.build .greeting = .ok .greeting ∧ Flow.greeting.Acyclic ∧
      (∀ rounds, 2 < rounds.length →
        ((Run.start .greeting .standard 0 0 {} 7 0).playAll rounds).ending? ≠ none) ∧
      (Run.complete none 12 0 (.start .greeting .standard 0 0 {} 7 0) .offline).2.1.ending? ≠
        none := by
  have built : Graph.build .greeting = .ok .greeting := rfl
  have acyclic : Flow.greeting.Acyclic :=
    Flow.acyclic_of_plain ((Graph.build_eq_ok_iff _ _).mp built).1 (by decide)
  exact ⟨Graph.build_polling,
    (build_paced Graph.build_polling 0 0 {} 7 0).2.1 .offline pollingMoves, built, acyclic,
    fun rounds => ((build_paced built 0 0 {} 7 0).1 .standard rounds).2 acyclic,
    (build_paced built 0 0 {} 7 0).2.2 acyclic .offline none 12 (by decide)⟩

end Journey

end Scenario
