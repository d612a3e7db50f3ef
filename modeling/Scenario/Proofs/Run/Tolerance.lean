import Scenario.Proofs.Run.Delivery
import Scenario.Proofs.Run.Log
/-!
Failures that are tolerated.

The number of the failures that were delivered says how far a run has come in its tolerance. As long
as there is some left, a failure is absorbed, and the next one after that ends the run. Nothing else
is absorbed or counted.
-/
namespace Scenario

/-- A failure was absorbed: the run has written one entry and nothing else, and goes on along the
edge that leaves its node or has completed there. -/
structure Absorbs (graph : Graph) (failure : RequestFailure) (now : Nat) (before after : Run) :
    Prop where
  context : after.context = before.context
  log : ∃ entry, after.log = before.log ++ [entry] ∧ entry.level = .error ∧
    entry.node = some before.node.ref ∧ entry.payload = some failure.encode
  onward : (∃ edge, graph.edgesFrom before.node.id = [edge] ∧ after.phase = .ready ∧
      after.node ∈ graph.nodes ∧ after.node.id = edge.target) ∨
    graph.edgesFrom before.node.id = [] ∧ after.phase = .ended ⟨.completed, none, now⟩ ∧
      after.node = before.node

theorem Run.absorbs (run : Run) (runnable : run.graph.flow.Runnable)
    (member : run.node ∈ run.graph.nodes) (plain : run.node.kind ≠ .assertion)
    (tolerable : run.tolerated < run.tolerance.toNat) (now : Nat) (failure : RequestFailure) :
    Absorbs run.graph failure now run
      (run.proceed now (.finished (.error (.requestFailed failure)))) := by
  rw [proceed, if_pos tolerable]
  let line := toleratedLine (run.tolerated + 1) run.tolerance failure
  let counted := { run with tolerated := run.tolerated + 1 }
  have fits : (none : Option Bool) = none ↔ counted.node.kind ≠ .assertion := iff_of_true rfl plain
  have written := counted.advance_log now (some line) none
  change Absorbs run.graph failure now run (counted.advance now (some line) none)
  rcases counted.advance_cases runnable member fits now (some line) with
    ⟨edge, target, log, only, inside, enters, gone⟩ | ⟨log, -, nothing, gone⟩ |
      ⟨label, log, verdict, -, -⟩
  · rw [gone] at written ⊢
    rcases written with ⟨written, -⟩ | ⟨e, ended, -⟩
    · exact ⟨rfl, ⟨_, written, rfl, rfl, rfl⟩, .inl ⟨edge, only, rfl, inside, enters⟩⟩
    · cases ended
  · rw [gone] at written ⊢
    rcases written with ⟨written, -⟩ | ⟨e, ended, -⟩
    · exact ⟨rfl, ⟨_, written, rfl, rfl, rfl⟩, .inr ⟨nothing, rfl, rfl⟩⟩
    · cases ended
  · cases verdict

namespace Journey

variable {graph : Graph} {tolerance : UInt32} {journey : Journey} {step : Suspended}
  {visit : Visit}

/-- The next failure is absorbed as long as some tolerance is left, and then it ends the run. -/
theorem Sound.look_of_delivered (runnable : graph.flow.Runnable)
    (sound : Sound graph tolerance journey) (kind : journey.run.node.kind = .request)
    {failure : RequestFailure} (delivered : journey.delivered? = some failure) :
    (journey.run.tolerated < tolerance.toNat →
      Absorbs graph failure journey.now journey.run (journey.after .look).run) ∧
    (tolerance.toNat ≤ journey.run.tolerated → (journey.after .look).run.phase =
      .ended ⟨.failed, some (.request failure), journey.now⟩) := by
  obtain ⟨step, awaited, fails⟩ := Option.bind_eq_some_iff.mp delivered
  obtain ⟨free, -⟩ := awaited_cases sound.registry_eq awaited
  obtain ⟨-, run⟩ := look_of_awaited sound.registry_eq awaited
  have plain : journey.run.node.kind ≠ .assertion := by simp [kind]
  rw [Suspended.failure?_of_look free] at fails
  cases seen : step.look journey.run.context journey.now with
  | suspended other => simp [seen] at fails
  | finished result =>
    rw [seen] at fails run
    rw [(result.failure?_eq_some_iff failure).mp fails] at run
    rw [run]
    obtain ⟨rfl, -, rfl, member, -, -, -, -⟩ := sound
    constructor
    · intro tolerable
      exact journey.run.absorbs runnable member plain tolerable journey.now failure
    · intro intolerable
      rw [Run.proceed, if_neg (Nat.not_lt.mpr intolerable)]
      rfl

theorem Sound.halted (sound : Sound graph tolerance journey)
    (accounts : Accounts graph tolerance journey) {last : Visit} {e : StepError}
    (most : journey.visits = graph.behind tolerance journey.visits ++ [last])
    (isResult : last.result = some (.error e)) :
    ¬ Passed tolerance journey.visits last ∧
      ∃ now, journey.run.phase = .ended (journey.run.endingOf now e) := by
  have rest : journey.visits ≠ graph.behind tolerance journey.visits := by
    intro all
    rw [← all] at most
    simp at most
  have final {other : Visit}
      (same : journey.visits = graph.behind tolerance journey.visits ++ [other]) :
      other = last := by
    have joined := most.symm.trans same
    simpa using joined.symm
  obtain ⟨-, body, closing, -, -, closes⟩ := accounts
  -- The run has not completed, for then all visits are behind it; nor has it met a dead end, where
  -- the last visit was done; nor does it go on, where the last one has no result yet.
  cases closes with
  | completed ended all => exact absurd all rest
  | deadEnd ended same here verdict done =>
    rw [final same, isResult] at done
    cases done
  | stopped message payload ended halts =>
    cases halts with
    | refused reason all => exact absurd all rest
    | failed same other failed =>
      cases final same
      cases isResult.symm.trans other
      exact ⟨failed, _, ended⟩
  | active active =>
    have stands := sound.stands
    cases phase : journey.run.phase with
    | ended ending => simp [Run.ending?, phase] at active
    | ready =>
      rw [phase] at stands
      cases stands with
      | ready expected => exact absurd expected.behind_eq.symm rest
    | suspended step =>
      rw [phase] at stands
      cases stands with
      | suspended isLast same plain pending =>
        rw [most, List.getLast?_concat] at isLast
        cases isLast
        rw [pending] at isResult
        cases isResult

/-- All failures were absorbed, or there was one more, which has ended the run. -/
theorem Sound.spent_cases (sound : Sound graph tolerance journey)
    (accounts : Accounts graph tolerance journey) :
    (journey.visits.countP Visit.failed = journey.run.tolerated ∧
      journey.run.tolerated ≤ tolerance.toNat) ∨
    ∃ last failure now, journey.visits = graph.behind tolerance journey.visits ++ [last] ∧
      last.result = some (.error (.requestFailed failure)) ∧
      journey.visits.countP Visit.failed = tolerance.toNat + 1 ∧
      journey.run.tolerated = tolerance.toNat ∧
      journey.run.phase = .ended (journey.run.endingOf now (.requestFailed failure)) := by
  obtain ⟨body, closing, -, told, -⟩ := accounts.written
  have counted := accounts.counted
  have tolerated := told.tolerated
  rw [← counted] at tolerated
  -- The visits behind the run are counted, so there is one failure more if the last one failed.
  rcases behind_cases graph tolerance journey.visits with all | ⟨last, most⟩
  · rw [← all] at counted
    exact .inl ⟨counted.symm, tolerated⟩
  · have total : journey.visits.countP Visit.failed =
        journey.run.tolerated + if last.failed then 1 else 0 := by
      rw [most, List.countP_append, ← counted, List.countP_singleton]
    cases failed : last.failed with
    | false =>
      rw [failed] at total
      exact .inl ⟨total, tolerated⟩
    | true =>
      rw [failed] at total
      obtain ⟨failure, isResult⟩ : ∃ failure, last.result =
          some (.error (.requestFailed failure)) := by
        unfold Visit.failed at failed
        split at failed
        · exact ⟨_, ‹_›⟩
        · cases failed
      obtain ⟨unpassed, now, ended⟩ := sound.halted accounts most isResult
      have more : ¬ journey.visits.countP Visit.failed ≤ tolerance.toNat := by
        intro bound
        exact unpassed (.inr ⟨failed, bound⟩)
      rw [if_pos rfl] at total
      exact .inr ⟨last, failure, now, most, isResult, by omega, by omega, ended⟩

/-- A run that ended with a failure had more of them than it tolerates. -/
theorem Accounts.exceeded (accounts : Accounts graph tolerance journey) {ending : Ending}
    (ended : journey.run.phase = .ended ending) {failure : RequestFailure}
    (error : ending.error = some (.request failure)) :
    tolerance.toNat < journey.visits.countP Visit.failed := by
  obtain ⟨body, closing, -, -, closes⟩ := accounts.written
  cases closes with
  | active active => simp [Run.ending?, ended] at active
  | completed other =>
    cases ended.symm.trans other
    cases error
  | deadEnd other =>
    cases ended.symm.trans other
    cases error
  | stopped message payload other halts =>
    rename_i e now
    cases ended.symm.trans other
    -- The limits stop no run with this error, so a visit has failed that could not be passed.
    have isRequest := (StepError.runError_eq_request_iff e _ failure).mp error
    subst isRequest
    cases halts with
    | failed same isResult unpassed =>
      by_contra bound
      refine unpassed (.inr ⟨?_, Nat.not_lt.mp bound⟩)
      simp [Visit.failed, isResult]

theorem Sound.failed_iff (sound : Sound graph tolerance journey)
    (accounts : Accounts graph tolerance journey) (failure : RequestFailure) :
    (∃ ending, journey.run.phase = .ended ending ∧ ending.outcome = .failed ∧
        ending.error = some (.request failure)) ↔
      journey.visitFailures.length = tolerance.toNat + 1 ∧
        journey.visitFailures.getLast? = some failure := by
  rw [length_visitFailures]
  rcases sound.spent_cases accounts with ⟨absorbed, bound⟩ |
    ⟨last, other, now, most, isResult, more, -, stopped⟩
  · constructor
    · rintro ⟨ending, ended, -, error⟩
      have exceeded := accounts.exceeded ended error
      omega
    · rintro ⟨more, -⟩
      omega
  · have final : journey.visitFailures.getLast? = some other := by
      have delivered : last.failure? = some other := by
        simp [Visit.failure?, StepResult.failure?, isResult]
      rw [journey.visitFailures_append most, delivered, Option.toList_some, List.getLast?_concat]
    rw [final, stopped]
    constructor
    · rintro ⟨ending, ended, -, error⟩
      cases ended
      cases error
      exact ⟨more, rfl⟩
    · rintro ⟨-, same⟩
      cases same
      exact ⟨_, rfl, rfl, rfl⟩

theorem Sound.halted_of_error (sound : Sound graph tolerance journey)
    (accounts : Accounts graph tolerance journey) (member : visit ∈ journey.visits) {e : StepError}
    (isResult : visit.result = some (.error e)) (own : ∀ failure, e ≠ .requestFailed failure) :
    ∃ now, journey.run.phase = .ended (journey.run.endingOf now e) := by
  obtain ⟨body, closing, -, told, -⟩ := accounts.written
  -- Whatever was left behind was passed, so this visit is the last one.
  have left : visit ∉ graph.behind tolerance journey.visits := by
    intro behind
    have never : ¬ Passed tolerance [] visit := not_passed_of_error isResult own
    exact never ((told.passed visit behind).imp_right fun failed => ⟨failed, Nat.zero_le _⟩)
  rcases behind_cases graph tolerance journey.visits with all | ⟨last, most⟩
  · exact absurd (all ▸ member) left
  · rw [most] at member
    rcases List.mem_append.mp member with behind | isLast
    · exact absurd behind left
    · cases List.mem_singleton.mp isLast
      exact (sound.halted accounts most isResult).2

/-- A visit without an exit is the last one. -/
theorem Sound.getLast?_of_exits (sound : Sound graph tolerance journey)
    (member : visit ∈ journey.visits) (nothing : graph.exits visit.node.id visit.verdict = []) :
    journey.visits.getLast? = some visit := by
  obtain ⟨before, after, visits⟩ := List.append_of_mem member
  cases after with
  | nil =>
    rw [visits]
    exact List.getLast?_concat
  | cons next after =>
    have onward := sound.onward
    rw [visits, List.isChain_append] at onward
    have follows := (List.isChain_cons_cons.mp onward.2.1).1
    exact absurd follows (not_follows_of_exits nothing next.node)

theorem Sound.halted_of_deadEnd (sound : Sound graph tolerance journey)
    (member : visit ∈ journey.visits) {label : Bool} (verdict : visit.verdict = some label)
    (nothing : ∀ edge ∈ graph.edgesFrom visit.node.id, edge.label ≠ some label) :
    ∃ now, journey.run.phase = .ended ⟨.failed, some (.deadEnd visit.node.id label), now⟩ := by
  have noExit : graph.exits visit.node.id visit.verdict = [] := by
    rw [verdict]
    exact (exits_some_eq_nil_iff graph visit.node.id label).mpr nothing
  have isLast := sound.getLast?_of_exits member noExit
  have kind : visit.node.kind = .assertion := by
    by_contra other
    rw [visit.verdict_eq_none_iff.mpr other] at verdict
    cases verdict
  obtain ⟨ending, ended, error⟩ := (sound.deadEnd_iff visit.node.id label).mpr
    ⟨visit, isLast, rfl, kind, verdict, nothing⟩
  have stands := sound.stands
  rw [ended] at stands ⊢
  cases stands with
  | refused expected => exact absurd error (StepError.runError_ne_deadEnd _ _ _ _)
  | stopped isLast same plain unpassed => exact absurd error (StepError.runError_ne_deadEnd _ _ _ _)
  | completed => cases error
  | deadEnd =>
    dsimp only at error
    exact ⟨_, by rw [error]⟩

/-- How a run deals with the failures that were delivered to it so far, and with the next one. -/
structure Tolerates (graph : Graph) (tolerance : UInt32) (deadline : Nat) (initial : World)
    (journey : Journey) (failures : List RequestFailure) : Prop where
  visited : journey.visits.filterMap Visit.failure? = failures
  replied : ∀ before visit after failure, journey.visits = before ++ visit :: after →
    visit.failure? = some failure → ∃ data request, visit.node.step = .request data ∧
      ((initial.visitAll before).transport.send request
        (visit.context.limits.remaining visit.time)).1.result = some (.error failure)
  bound : failures.length ≤ tolerance.toNat + 1
  counted : journey.run.tolerated = min failures.length tolerance.toNat
  requested : ∀ failure, journey.delivered? = some failure → journey.run.node.kind = .request
  absorbed : ∀ failure, journey.delivered? = some failure → failures.length < tolerance.toNat →
    Absorbs graph failure journey.now journey.run (journey.after .look).run
  exhausted : ∀ failure, journey.delivered? = some failure → failures.length = tolerance.toNat →
    (journey.after .look).run.phase = .ended ⟨.failed, some (.request failure), journey.now⟩
  failed : ∀ id failure,
    (∃ result, journey.result? id = some result ∧ result.outcome = .failed ∧
        result.error = some (.request failure)) ↔
      failures.length = tolerance.toNat + 1 ∧ failures.getLast? = some failure
  halts : ∀ visit ∈ journey.visits, ∀ e, visit.result = some (.error e) →
    (∀ failure, e ≠ .requestFailed failure) →
    ∃ now, journey.run.phase = .ended (journey.run.endingOf now e)
  deadEnds : ∀ visit ∈ journey.visits, ∀ label, visit.verdict = some label →
    (∀ edge ∈ graph.edgesFrom visit.node.id, edge.label ≠ some label) →
    ∃ now, journey.run.phase = .ended ⟨.failed, some (.deadEnd visit.node.id label), now⟩
  late : journey.Late deadline → journey.delivered? = none ∧
    (journey.run.ending? = none → ∃ ending, (journey.after .look).run.ending? = some ending ∧
      ending.outcome = if journey.token then .cancelled else .timedOut)
  withdrawn : ∀ step, journey.run.awaited? journey.now journey.transport = some step →
    step.hasCancelled journey.now = true → journey.delivered? = none ∧ ∃ ending,
      (journey.after .look).run.ending? = some ending ∧ ending.outcome = .cancelled

theorem Accounts.tolerates {deadline : Nat} {timeout : UInt64} {initial : World}
    (runnable : graph.flow.Runnable) (sound : Sound graph tolerance journey)
    (bounded : Bounded deadline timeout journey) (recording : Recording initial journey)
    (accounts : Accounts graph tolerance journey) :
    Tolerates graph tolerance deadline initial journey journey.visitFailures := by
  have spent : journey.visitFailures.length ≤ tolerance.toNat + 1 ∧
      journey.run.tolerated = min journey.visitFailures.length tolerance.toNat := by
    rw [length_visitFailures]
    rcases sound.spent_cases accounts with ⟨all, bound⟩ | ⟨last, failure, now, -, -, more, all, -⟩
    · omega
    · omega
  obtain ⟨bound, counted⟩ := spent
  refine { visited := rfl, replied := ?_, bound, counted, requested := ?_, absorbed := ?_,
           exhausted := ?_, failed := ?_, halts := ?_, deadEnds := ?_, late := ?_, withdrawn := ?_ }
  · intro before visit after failure visits failed
    exact recording.replied visits failed
  · intro failure delivered
    exact recording.kind_of_delivered sound delivered
  · intro failure delivered left
    have kind := recording.kind_of_delivered sound delivered
    apply (sound.look_of_delivered runnable kind delivered).1
    omega
  · intro failure delivered none
    have kind := recording.kind_of_delivered sound delivered
    apply (sound.look_of_delivered runnable kind delivered).2
    omega
  · intro id failure
    rw [← sound.failed_iff accounts]
    constructor
    · rintro ⟨result, reported, failed, error⟩
      obtain ⟨ending, ended, outcome, same, -⟩ := ending_of_result reported
      exact ⟨ending, ended, outcome ▸ failed, same ▸ error⟩
    · rintro ⟨ending, ended, failed, error⟩
      obtain ⟨result, reported, outcome, same⟩ := result_of_ended ended id
      exact ⟨result, reported, outcome.trans failed, same.trans error⟩
  · intro visit member e isResult own
    exact sound.halted_of_error accounts member isResult own
  · intro visit member label verdict nothing
    exact sound.halted_of_deadEnd member verdict nothing
  · intro late
    exact ⟨bounded.delivered?_of_late late, bounded.look_of_late late⟩
  · intro step awaited cancels
    exact look_of_withdrawn sound.registry_eq awaited cancels

/-- Of the failures that are delivered to a run just as many are absorbed as it tolerates, and the
next one ends it. -/
theorem build_tolerates {flow : Flow} {graph : Graph} (built : Graph.build flow = .ok graph)
    (tolerance : UInt32) (epoch : Nat) (vars : Variables) (timeout : UInt64) (now : Nat)
    (transport : Transport) (moves : List Move) :
    Tolerates graph tolerance (now + timeout.toNat) ⟨vars, none, transport⟩
      ((start graph tolerance epoch vars timeout now transport).afterAll moves)
      ((start graph tolerance epoch vars timeout now transport).failures moves) := by
  obtain ⟨runnable, rfl, member, -⟩ := (Graph.build_eq_ok_iff flow graph).mp built
  have sound := sound_start member tolerance epoch vars timeout now transport
  have bounded := bounded_start graph tolerance epoch vars timeout now transport
  have recording := recording_start graph tolerance epoch vars timeout now transport
  have accounts :=
    accounts_afterAll runnable member tolerance epoch vars timeout now transport moves
  have visited := sound.visitFailures_afterAll runnable moves
  rw [← List.nil_append (failures _ moves)]
  change _ = [] ++ _ at visited
  rw [← visited]
  exact accounts.tolerates runnable (sound.afterAll runnable moves) (bounded.afterAll moves)
    (recording.afterAll bounded moves)

end Journey

/-- A flow that asks again until there is an answer. -/
def Flow.retrying : Flow where
  nodes :=
    [⟨"begin", .assignment ⟨"wanted", .string "200"⟩, {}⟩,
      ⟨"ask", .request ⟨.get, "http://localhost", {}, .none⟩, {}⟩,
      ⟨"check", .assertion ⟨"${ask.status}", .equals, "${wanted}"⟩, {}⟩,
      ⟨"done", .output (.string "over"), {}⟩]
  edges :=
    [⟨"e0", "begin", "ask", none, {}⟩, ⟨"e1", "ask", "check", none, {}⟩,
      ⟨"e2", "check", "ask", some false, {}⟩, ⟨"e3", "check", "done", some true, {}⟩]

def Graph.retrying : Graph where
  flow := .retrying
  entry := ⟨"begin", .assignment ⟨"wanted", .string "200"⟩, {}⟩

namespace Journey

/-- Nobody answers, and one failure is tolerated. -/
def retryingStart : Journey :=
  start .retrying 1 0 {} 7 0 (.scripted [] [])

/-- The first failure is absorbed, and the one in the second round ends the run. -/
theorem retrying_tolerates :
    Graph.build .retrying = .ok .retrying ∧
      Tolerates .retrying 1 7 retryingStart.world
        (retryingStart.afterAll [.look, .look, .look, .look])
        (retryingStart.failures [.look, .look, .look, .look]) ∧
      (retryingStart.afterAll [.look, .look, .look, .look]).visits.map (·.node.id) =
        ["begin", "ask", "check", "ask"] ∧
      retryingStart.failures [.look, .look, .look, .look] =
        [.unavailable RequestFailure.noReply, .unavailable RequestFailure.noReply] ∧
      (retryingStart.afterAll [.look, .look, .look, .look]).run.ending? =
        some ⟨.failed, some (.request (.unavailable RequestFailure.noReply)), 0⟩ := by
  have built : Graph.build .retrying = .ok .retrying := rfl
  refine ⟨built, build_tolerates built 1 0 {} 7 0 _ [.look, .look, .look, .look], ?_, ?_, ?_⟩
  · decide
  · decide
  · decide

end Journey

end Scenario
