import Mathlib.Data.List.ProdSigma
import Scenario.Proofs.Run.Pace
import Scenario.Proofs.Run.Yield
/-!
Flows in which every cycle takes time.

A delay of a millisecond or more is over later than it was begun. If one stands on every cycle, no
node is visited twice within a millisecond; and since no step is begun at the deadline or later,
the timeout bounds the number of visits, whatever the assertions say and the transport answers.
-/
namespace Scenario

/-- A delay of a millisecond or more. -/
def Node.Pauses (node : Node) : Prop :=
  ∃ duration, node.step = .delay duration ∧ 0 < duration.toNat

/-- On every directed cycle, here the ids of its nodes with the first one again at the end, there
is a node that pauses. -/
def Flow.Paused (flow : Flow) : Prop :=
  ∀ first path, (first :: path ++ [first]).IsChain (Flow.Leads flow.edges) →
    ∃ node ∈ flow.nodes, node.id ∈ first :: path ∧ node.Pauses

/-- It is enough that every edge leaves a node that pauses or goes down some ranking of the ids. -/
theorem Flow.paused_of_rank {flow : Flow} (rank : String → Nat)
    (falls : ∀ edge ∈ flow.edges, (∃ node ∈ flow.nodes, node.id = edge.source ∧ node.Pauses) ∨
      rank edge.target < rank edge.source) : flow.Paused := by
  have descends (path : List String) : ∀ first last,
      (first :: path ++ [last]).IsChain (Flow.Leads flow.edges) →
      (∃ node ∈ flow.nodes, node.id ∈ first :: path ∧ node.Pauses) ∨ rank last < rank first := by
    induction path with
    | nil =>
      intro first last chain
      obtain ⟨edge, member, rfl, rfl⟩ := (List.isChain_cons_cons.mp chain).1
      simpa using falls edge member
    | cons next path ih =>
      intro first last chain
      obtain ⟨⟨edge, member, rfl, rfl⟩, tail⟩ := List.isChain_cons_cons.mp chain
      rcases falls edge member with ⟨node, known, same, pauses⟩ | less
      · exact .inl ⟨node, known, by simp [same], pauses⟩
      · rcases ih edge.target last tail with ⟨node, known, later, pauses⟩ | lower
        · exact .inl ⟨node, known, List.mem_cons_of_mem _ later, pauses⟩
        · exact .inr (lower.trans less)
  intro first path cycle
  exact (descends path first first cycle).resolve_right (lt_irrefl _)

/-- Where and when a step was begun. -/
structure Stamp where
  node : Node
  time : Nat

def Visit.stamp (visit : Visit) : Stamp := ⟨visit.node, visit.time⟩

/-- One stamp is not later than another, and earlier if its node pauses. -/
def Stamp.Precedes (stamp next : Stamp) : Prop :=
  stamp.time ≤ next.time ∧ (stamp.node.Pauses → stamp.time < next.time)

theorem Visit.map_stamp_settle (visits : List Visit) (result : StepResult) :
    (settle visits result).map Visit.stamp = visits.map Visit.stamp := by
  rcases visits.eq_nil_or_concat' with rfl | ⟨before, last, rfl⟩
  · rfl
  · rw [settle_append, List.map_append, List.map_append]
    rfl

namespace Flow
variable {flow : Flow} {stamps : List Stamp}

/-- Between two stamps of one node there is a whole cycle, so it takes time to come back. -/
theorem Paused.lt_of_again (paused : flow.Paused) (runnable : flow.Runnable)
    {first again : Stamp} {between : List Stamp}
    (trail : flow.Trail ((first :: between ++ [again]).map Stamp.node))
    (ordered : (first :: between ++ [again]).Pairwise Stamp.Precedes)
    (same : first.node.id = again.node.id) : first.time < again.time := by
  have walk : (first.node.id :: between.map (·.node.id) ++ [again.node.id]).IsChain
      (Leads flow.edges) := by
    simpa [Function.comp_def] using (List.isChain_map Node.id).mpr trail.chain
  rw [← same] at walk
  obtain ⟨node, member, onCycle, pauses⟩ := paused first.node.id _ walk
  -- Ids are distinct, so the node that pauses is itself among those of the stamps.
  obtain ⟨stamp, among, isNode⟩ : ∃ stamp ∈ first :: between, stamp.node = node := by
    have isId : node.id ∈ (first :: between).map (·.node.id) := onCycle
    obtain ⟨stamp, among, sameId⟩ := List.mem_map.mp isId
    have known : stamp.node ∈ flow.nodes :=
      trail.known _ (List.mem_map_of_mem (List.mem_append_left _ among))
    exact ⟨stamp, among, List.inj_on_of_nodup_map runnable.nodeIds known member sameId⟩
  obtain ⟨front, -, later⟩ := List.pairwise_append.mp ordered
  have takesTime : stamp.time < again.time :=
    (later stamp among again (List.mem_singleton_self again)).2 (isNode ▸ pauses)
  have notEarlier : first.time ≤ stamp.time := by
    rcases List.mem_cons.mp among with rfl | inside
    · exact le_rfl
    · exact ((List.pairwise_cons.mp front).1 stamp inside).1
  omega

/-- No node is visited twice at one time. -/
theorem Paused.nodup (paused : flow.Paused) (runnable : flow.Runnable)
    (trail : flow.Trail (stamps.map Stamp.node)) (ordered : stamps.Pairwise Stamp.Precedes) :
    (stamps.map fun stamp => (stamp.node.id, stamp.time)).Nodup := by
  induction stamps with
  | nil => exact .nil
  | cons first rest ih =>
    have onward : flow.Trail ([first.node] ++ rest.map Stamp.node) := trail
    have later := ih onward.of_append_right (List.pairwise_cons.mp ordered).2
    rw [List.map_cons, List.nodup_cons]
    refine ⟨fun repeated => ?_, later⟩
    obtain ⟨again, member, same⟩ := List.mem_map.mp repeated
    obtain ⟨between, after, rfl⟩ := List.append_of_mem member
    have split : first :: (between ++ again :: after) = first :: between ++ [again] ++ after := by
      simp
    rw [split] at ordered trail
    rw [List.map_append] at trail
    have less := paused.lt_of_again runnable trail.of_append_left
      (List.pairwise_append.mp ordered).1 (congrArg Prod.fst same).symm
    have equal : again.time = first.time := congrArg Prod.snd same
    omega

/-- So no more visits fit into some time than there are nodes and milliseconds. -/
theorem Paused.length_le (paused : flow.Paused) (runnable : flow.Runnable)
    (trail : flow.Trail (stamps.map Stamp.node)) (ordered : stamps.Pairwise Stamp.Precedes)
    {begin duration : Nat}
    (within : ∀ stamp ∈ stamps, begin ≤ stamp.time ∧ stamp.time < begin + duration) :
    stamps.length ≤ duration * flow.nodes.length := by
  -- The visits differ in their node or in their millisecond, and there are so many pairs of those.
  let moments := flow.nodes.map (·.id) ×ˢ List.range' begin duration
  have inside : (stamps.map fun stamp => (stamp.node.id, stamp.time)) ⊆ moments := by
    intro moment member
    obtain ⟨stamp, among, rfl⟩ := List.mem_map.mp member
    have known := trail.known stamp.node (List.mem_map_of_mem among)
    exact List.mem_product.mpr ⟨List.mem_map_of_mem known, List.mem_range'_1.mpr (within stamp among)⟩
  have bound := (paused.nodup runnable trail ordered).length_le_of_subset inside
  rw [List.length_map, List.length_product, List.length_map, List.length_range'] at bound
  exact bound.trans (Nat.mul_comm _ _).le

end Flow

namespace Suspended

/-- When what the step waits for has come. -/
def due : Suspended → Nat
  | .delay _ operation => operation.due
  | .request _ _ operation => operation.due

end Suspended

theorem Operation.due_le_of_look {α : Type} {operation : Operation α} {limits : Limits} {now : Nat}
    {answer : α} (answered : operation.look limits now = .answered answer) :
    operation.due ≤ now := by
  by_contra pending
  unfold look at answered
  rw [if_pos (Nat.not_le.mp pending)] at answered
  split at answered <;> cases answered

theorem Suspended.due_le_of_look {step : Suspended} {context : Context} {now : Nat}
    {result : StepResult} (ended : step.look context now = .finished result)
    (own : ∀ reason, result ≠ .error (.interrupted reason)) : step.due ≤ now := by
  cases step with
  | delay duration operation =>
    rw [look] at ended
    split at ended
    · cases ended
    · cases ended
      exact absurd rfl (own _)
    · rename_i seen
      exact Operation.due_le_of_look seen
  | request node request operation =>
    rw [look] at ended
    split at ended
    · cases ended
    · cases ended
      exact absurd rfl (own _)
    · rename_i seen
      exact Operation.due_le_of_look seen

theorem Step.lt_due_of_start {node : Node} {context : Context} {now : Nat}
    {transport after : Transport} {step : Suspended}
    (waits : node.step.start node.id context now transport = (.suspended step, after))
    (pauses : node.Pauses) : now < step.due := by
  obtain ⟨duration, isDelay, positive⟩ := pauses
  rcases Step.suspended_of_start waits with ⟨other, same, -, rfl⟩ | ⟨data, request, same, -⟩
  · cases isDelay.symm.trans same
    simp only [Suspended.due, Operation.sleep, timerEnd, longestWait]
    omega
  · cases isDelay.symm.trans same

theorem Step.not_pauses_of_done {node : Node} {context : Context} {now : Nat}
    {transport after : Transport} {result : StepResult}
    (free : context.limits.interruption? now = none)
    (done : node.step.start node.id context now transport = (.finished result, after)) :
    ¬ node.Pauses := by
  rintro ⟨duration, isDelay, -⟩
  rw [isDelay, Step.start, free] at done
  cases done

namespace Journey

/-- The visits stand in the order of their times, and the run waits until the last of them has
taken its time. -/
structure Ordered (begin : Nat) (journey : Journey) : Prop where
  started : begin ≤ journey.now
  since : ∀ visit ∈ journey.visits.map Visit.stamp, begin ≤ visit.time
  past : ∀ visit ∈ journey.visits.map Visit.stamp, visit.time ≤ journey.now
  ordered : (journey.visits.map Visit.stamp).Pairwise Stamp.Precedes
  awaits : ∀ step, journey.run.phase = .suspended step →
    ∀ last ∈ (journey.visits.map Visit.stamp).getLast?, last.node.Pauses → last.time < step.due
  ready : journey.run.phase = .ready →
    ∀ visit ∈ journey.visits.map Visit.stamp, visit.node.Pauses → visit.time < journey.now

variable {begin deadline : Nat} {timeout : UInt64} {journey : Journey}

theorem Ordered.stop (ordered : Ordered begin journey) (e : StepError) :
    Ordered begin { journey with run := journey.run.stop journey.now e } where
  started := ordered.started
  since := ordered.since
  past := ordered.past
  ordered := ordered.ordered
  awaits step suspended := by
    rw [Run.stop_phase] at suspended
    cases suspended
  ready isReady := by
    rw [Run.stop_phase] at isReady
    cases isReady

/-- When the run goes on after the step that it has waited for, the last visit has taken its
time. -/
theorem Ordered.look_of_suspended (ordered : Ordered begin journey) {step : Suspended}
    (suspended : journey.run.phase = .suspended step) : Ordered begin (journey.after .look) := by
  rw [after_look_of_suspended suspended]
  cases seen : step.look journey.run.context journey.now with
  | suspended other =>
    have same : journey.run.proceed journey.now (.suspended other) = journey.run := by
      rw [Run.proceed, (Suspended.wake_of_look seen).1, ← suspended]
    rw [same]
    exact ⟨ordered.started, ordered.since, ordered.past, ordered.ordered, ordered.awaits,
      ordered.ready⟩
  | finished result =>
    have same := Visit.map_stamp_settle journey.visits result
    refine ⟨ordered.started, same ▸ ordered.since, same ▸ ordered.past, same ▸ ordered.ordered,
      fun other waits => absurd waits (journey.run.proceed_ne_suspended _ _ _), ?_⟩
    intro isReady
    dsimp only at isReady ⊢
    have own (reason : Interruption) : result ≠ .error (.interrupted reason) := by
      rintro rfl
      rw [Run.proceed_of_error _ _ (by simp), Run.stop_phase] at isReady
      cases isReady
    have due : step.due ≤ journey.now := Suspended.due_le_of_look seen own
    have awaits := ordered.awaits step suspended
    have past := ordered.past
    have pairs := ordered.ordered
    rw [same]
    generalize journey.visits.map Visit.stamp = stamps at awaits past pairs
    -- Only the last visit was still waited for; those before it had taken their time by then.
    rcases stamps.eq_nil_or_concat' with rfl | ⟨before, last, rfl⟩
    · simp
    · rw [List.getLast?_concat] at awaits
      intro visit member pauses
      rcases List.mem_append.mp member with earlier | final
      · have sooner := (List.pairwise_append.mp pairs).2.2 visit earlier last (by simp)
        exact (sooner.2 pauses).trans_le (past last (by simp))
      · rw [List.mem_singleton.mp final] at pauses ⊢
        exact (awaits last rfl pauses).trans_le due

theorem Ordered.visit (ordered : Ordered begin journey) (ready : journey.run.phase = .ready)
    {run : Run} {transport : Transport} {visit : Visit} (time : visit.time = journey.now)
    (awaits : ∀ step, run.phase = .suspended step → visit.node.Pauses → journey.now < step.due)
    (plain : run.phase = .ready → ¬ visit.node.Pauses) :
    Ordered begin { journey with run, transport, visits := journey.visits ++ [visit] } where
  started := ordered.started
  since := by
    rw [List.map_append, List.forall_mem_append]
    exact ⟨ordered.since, by simpa [Visit.stamp, time] using ordered.started⟩
  past := by
    rw [List.map_append, List.forall_mem_append]
    exact ⟨ordered.past, by simp [Visit.stamp, time]⟩
  ordered := by
    rw [List.map_append, List.pairwise_append]
    refine ⟨ordered.ordered, List.pairwise_singleton _ _, ?_⟩
    intro earlier member later isLast
    rw [List.map_singleton, List.mem_singleton] at isLast
    rw [isLast, Stamp.Precedes, Visit.stamp, time]
    exact ⟨ordered.past earlier member, ordered.ready ready earlier member⟩
  awaits := by
    intro step suspended last isLast pauses
    rw [List.map_append, List.map_singleton, List.getLast?_concat] at isLast
    cases isLast
    rw [Visit.stamp, time]
    exact awaits step suspended pauses
  ready := by
    intro isReady
    rw [List.map_append, List.forall_mem_append]
    refine ⟨ordered.ready ready, ?_⟩
    simpa [Visit.stamp] using fun pauses => absurd pauses (plain isReady)

theorem Ordered.look (standard : journey.run.registry = .standard)
    (ordered : Ordered begin journey) : Ordered begin (journey.after .look) := by
  cases phase : journey.run.phase with
  | ended ending =>
    rw [after_look_of_ended phase]
    exact ordered
  | suspended step => exact ordered.look_of_suspended phase
  | ready =>
    cases limit : journey.run.context.limits.interruption? journey.now with
    | some reason =>
      rw [after_look_of_refused phase limit]
      exact ordered.stop _
    | none =>
      cases started : journey.run.node.step.start journey.run.node.id journey.run.context
        journey.now journey.transport with
      | mk progress transport =>
        cases progress with
        | finished result =>
          rw [after_look_of_done standard phase limit started]
          exact ordered.visit phase rfl
            (fun step waits => absurd waits (journey.run.proceed_ne_suspended _ _ _))
            (fun _ => Step.not_pauses_of_done limit started)
        | suspended step =>
          have waiting : Ordered begin (journey.waiting step transport) := by
            refine ordered.visit phase rfl ?_ nofun
            rintro other ⟨⟩
            exact Step.lt_due_of_start started
          rw [after_look_of_waiting standard phase limit started]
          exact waiting.look_of_suspended rfl

theorem Ordered.cancel (ordered : Ordered begin journey) :
    Ordered begin (journey.after .cancel) :=
  ⟨ordered.started, ordered.since, ordered.past, ordered.ordered, ordered.awaits, ordered.ready⟩

theorem Ordered.pass (ordered : Ordered begin journey) (duration : Nat) :
    Ordered begin (journey.after (.pass duration)) where
  started := Nat.le_add_right_of_le ordered.started
  since := ordered.since
  past visit member := Nat.le_add_right_of_le (ordered.past visit member)
  ordered := ordered.ordered
  awaits := ordered.awaits
  ready isReady visit member pauses :=
    Nat.lt_add_right duration (ordered.ready isReady visit member pauses)

theorem Ordered.afterAll (bounded : Bounded deadline timeout journey)
    (ordered : Ordered begin journey) (moves : List Move) :
    Ordered begin (journey.afterAll moves) := by
  induction moves generalizing journey with
  | nil => exact ordered
  | cons move moves ih =>
    cases move with
    | look => exact ih (bounded.afterAll [.look]) (ordered.look bounded.registry_eq)
    | cancel => exact ih bounded.cancel ordered.cancel
    | pass duration => exact ih (bounded.pass duration) (ordered.pass duration)

theorem ordered_start (graph : Graph) (tolerance : UInt32) (epoch : Nat) (vars : Variables)
    (timeout : UInt64) (now : Nat) (transport : Transport) :
    Ordered now (start graph tolerance epoch vars timeout now transport) := by
  refine ⟨le_rfl, ?_, ?_, .nil, nofun, fun _ => ?_⟩ <;> simp [start]

theorem trail_visits {flow : Flow} {graph : Graph} (built : Graph.build flow = .ok graph)
    (tolerance : UInt32) (epoch : Nat) (vars : Variables) (timeout : UInt64) (now : Nat)
    (transport : Transport) (moves : List Move) :
    flow.Trail (((start graph tolerance epoch vars timeout now transport).afterAll
      moves).visits.map (·.node)) := by
  obtain ⟨runnable, rfl, member, -⟩ := (Graph.build_eq_ok_iff flow graph).mp built
  obtain ⟨rounds, same⟩ := exists_rounds graph tolerance epoch vars timeout now transport moves
  rw [same]
  let run := Run.start graph .standard tolerance epoch vars timeout now
  have inside : run.node ∈ run.graph.flow.nodes := member
  exact (Run.trail_dispatched inside rounds).1

theorem length_visits_le {flow : Flow} {graph : Graph} (built : Graph.build flow = .ok graph)
    (paused : flow.Paused) (tolerance : UInt32) (epoch : Nat) (vars : Variables)
    (timeout : UInt64) (now : Nat) (transport : Transport) (moves : List Move) :
    ((start graph tolerance epoch vars timeout now transport).afterAll moves).visits.length ≤
      timeout.toNat * flow.nodes.length := by
  have runnable := ((Graph.build_eq_ok_iff flow graph).mp built).1
  have bounded := bounded_start graph tolerance epoch vars timeout now transport
  have trail := trail_visits built tolerance epoch vars timeout now transport moves
  have ordered := (ordered_start graph tolerance epoch vars timeout now transport).afterAll bounded
    moves
  have begun := (bounded.afterAll moves).begun
  generalize (start graph tolerance epoch vars timeout now transport).afterAll moves = journey at *
  have stamped : flow.Trail ((journey.visits.map Visit.stamp).map Stamp.node) := by
    rw [List.map_map]
    exact trail
  have within : ∀ stamp ∈ journey.visits.map Visit.stamp,
      now ≤ stamp.time ∧ stamp.time < now + timeout.toNat := by
    intro stamp member
    obtain ⟨visit, among, rfl⟩ := List.mem_map.mp member
    exact ⟨ordered.since visit.stamp member, (begun visit among).2⟩
  simpa only [List.length_map] using paused.length_le runnable stamped ordered.ordered within

theorem looksLeft_le (ordered : Ordered begin journey) (bound duration : Nat) :
    journey.looksLeft bound (begin + duration) ≤ 2 * bound + duration + 1 := by
  have started := ordered.started
  unfold looksLeft
  split <;> omega

/-- Over a flow in which every cycle takes time, no run begins more steps than there are nodes and
milliseconds; and from wherever it has come to, it ends, if it is looked at when it is due, whether
and whenever it is cancelled. -/
theorem build_delays {flow : Flow} {graph : Graph} (built : Graph.build flow = .ok graph)
    (paused : flow.Paused) (tolerance : UInt32) (epoch : Nat) (vars : Variables)
    (timeout : UInt64) (now : Nat) (transport : Transport) (moves : List Move) :
    let bound := timeout.toNat * flow.nodes.length
    let journey := (start graph tolerance epoch vars timeout now transport).afterAll moves
    journey.visits.length ≤ bound ∧
      ∀ cancelAt fuel, 2 * bound + timeout.toNat + 1 < fuel →
        ∃ later, journey.Prompt later ∧
          Run.complete cancelAt fuel journey.now journey.run journey.transport =
            ((journey.afterAll later).now, (journey.afterAll later).run,
              (journey.afterAll later).transport) ∧
          (journey.afterAll later).run.ending? ≠ none ∧
          (journey.afterAll later).visits.length ≤ bound := by
  intro bound journey
  have initially := bounded_start graph tolerance epoch vars timeout now transport
  have bounded : Bounded _ timeout journey := initially.afterAll moves
  have ordered : Ordered now journey :=
    (ordered_start graph tolerance epoch vars timeout now transport).afterAll initially moves
  have fits (later : List Move) : (journey.afterAll later).visits.length ≤ bound := by
    rw [← afterAll_append]
    exact length_visits_le built paused tolerance epoch vars timeout now transport (moves ++ later)
  refine ⟨fits [], fun cancelAt fuel enough => ?_⟩
  have ends := bounded.complete_ends fits cancelAt
    ((looksLeft_le ordered bound timeout.toNat).trans_lt enough)
  obtain ⟨later, prompt, completed⟩ := bounded.complete cancelAt fuel
  rw [completed] at ends
  exact ⟨later, prompt, completed, ends, fits later⟩

/-- A loop with a delay in it, looked at once it has come round. -/
theorem polling_delays :
    Graph.build .polling = .ok .polling ∧ Flow.polling.Paused ∧
      (pollingStart.afterAll pollingMoves).visits.length ≤ 28 ∧
      ∃ later, (pollingStart.afterAll pollingMoves).Prompt later ∧
        ((pollingStart.afterAll pollingMoves).afterAll later).run.ending? ≠ none := by
  have paused : Flow.polling.Paused := by
    refine Flow.paused_of_rank (fun id => if id = "begin" ∨ id = "check" then 1 else 0) ?_
    have waits : ∃ node ∈ Flow.polling.nodes, node.id = "wait" ∧ node.Pauses :=
      ⟨_, List.mem_cons_of_mem _ List.mem_cons_self, rfl, 5, rfl, by decide⟩
    intro edge member
    simp only [Flow.polling, List.mem_cons, List.not_mem_nil, or_false] at member
    rcases member with rfl | rfl | rfl | rfl
    · exact .inr (by decide)
    · exact .inl waits
    · exact .inr (by decide)
    · exact .inr (by decide)
  obtain ⟨few, ends⟩ :=
    build_delays Graph.build_polling paused 0 0 {} 7 0 .offline pollingMoves
  obtain ⟨later, prompt, -, ended, -⟩ := ends none 65 (by decide)
  exact ⟨Graph.build_polling, paused, few, later, prompt, ended⟩

end Journey

end Scenario
