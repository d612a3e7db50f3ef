import Scenario.Proofs.Run.Journey
/-!
Cancellation and deadlines.

As soon as a run is cancelled or its deadline is reached nothing is started, sent or written any
more, and the next look ends it. A look that ends a run finds the cancellation first and the
deadline second, and every request is sent with the time that is left until the deadline.
-/
namespace Scenario

open Relation (ReflGen)

namespace Journey

/-- The run was cancelled, or its time is over. -/
def Late (deadline : Nat) (journey : Journey) : Prop :=
  journey.token = true ∨ deadline ≤ journey.now

/-- Between two moments of a run nothing was started, sent or written. -/
structure Quiet (before after : Journey) : Prop where
  visits : after.visits.map (·.node) = before.visits.map (·.node)
  transport : after.transport = before.transport
  vars : after.run.context.vars = before.run.context.vars
  credentials : after.run.context.credentials = before.run.context.credentials

/-- A look ended a run like this, at a moment when it was cancelled or not. -/
structure EndsBy (deadline : Nat) (timeout : UInt64) (token : Bool) (now : Nat) (ending : Ending) :
    Prop where
  time : ending.time = now
  cancelled : ending.outcome = .cancelled ↔ token = true
  noError : ending.outcome = .cancelled → ending.error = none
  timedOut : ending.outcome = .timedOut ↔ token = false ∧ deadline ≤ now
  error : ending.outcome = .timedOut → ending.error = some (.timedOut timeout)

/-- The transport as it was, or after one more request with the time that is left. -/
def HandsOver (deadline : Nat) (journey : Journey) (after : Transport) : Prop :=
  after = journey.transport ∨ ∃ request, journey.token = false ∧ journey.now < deadline ∧
    after = (journey.transport.send request (deadline - journey.now)).2

structure Punctual (deadline : Nat) (timeout : UInt64) (journey : Journey) : Prop where
  begun : ∀ visit ∈ journey.visits, visit.context.cancelled = false ∧ visit.time < deadline
  quiet : journey.Late deadline → ∀ moves, Quiet journey (journey.afterAll moves)
  /-- A look that brings a cancellation writes nothing, whatever else has come. -/
  discarded : (journey.after .look).token = true →
    (journey.after .look).run.context = journey.run.context
  stops : journey.Late deadline → (journey.after .look).run.ending? ≠ none
  final : ∀ ending, journey.run.ending? = some ending →
    ∀ moves, (journey.afterAll moves).run.ending? = some ending
  ends : ∀ ending, journey.run.ending? = none → (journey.after .look).run.ending? = some ending →
    EndsBy deadline timeout (journey.after .look).token journey.now ending
  handsOver : journey.HandsOver deadline (journey.after .look).transport

/-- The bounds of a run are those it was started with. -/
structure Bounded (deadline : Nat) (timeout : UInt64) (journey : Journey) : Prop where
  registry_eq : journey.run.registry = .standard
  deadline_eq : journey.run.context.deadline = deadline
  timeout_eq : journey.run.context.timeout = timeout
  token_eq : journey.run.ending? = none → journey.token = journey.run.context.cancelled
  begun : ∀ visit ∈ journey.visits, visit.context.cancelled = false ∧ visit.time < deadline

variable {deadline : Nat} {timeout : UInt64} {journey after : Journey}

/-- Only a run that has not ended makes a turn. -/
theorem Turn.active (turn : Turn journey after) : journey.run.ending? = none := by
  cases turn with
  | refuse ready => exact Run.ending?_of_ready ready
  | carryOut ready => exact Run.ending?_of_ready ready
  | begin ready => exact Run.ending?_of_ready ready
  | interrupt suspended => exact Run.ending?_of_suspended suspended
  | withdraw suspended => exact Run.ending?_of_suspended suspended
  | finish suspended => exact Run.ending?_of_suspended suspended

theorem not_late_iff (deadline : Nat) (journey : Journey) :
    ¬ journey.Late deadline ↔ journey.token = false ∧ journey.now < deadline := by
  simp [Late]

theorem Bounded.free_iff (bounded : Bounded deadline timeout journey)
    (active : journey.run.ending? = none) :
    journey.run.context.limits.interruption? journey.now = none ↔ ¬ journey.Late deadline := by
  rw [Limits.interruption?_eq_none_iff, not_late_iff, bounded.token_eq active,
    ← bounded.deadline_eq]
  rfl

theorem Bounded.turn (bounded : Bounded deadline timeout journey) (turn : Turn journey after) :
    Bounded deadline timeout after := by
  obtain ⟨registry_eq, deadline_eq, timeout_eq, token_eq, begun⟩ := bounded
  -- A turn stops the run, or lets its step go on, or begins to wait.
  have stopped (e : StepError) (token : Bool) (visits : List Visit)
      (begun : ∀ visit ∈ visits, visit.context.cancelled = false ∧ visit.time < deadline) :
      Bounded deadline timeout { journey with
        run := journey.run.stop journey.now e, token, visits } := by
    obtain ⟨log, same⟩ := journey.run.stop_eq journey.now e
    rw [same]
    exact ⟨registry_eq, deadline_eq, timeout_eq, nofun, begun⟩
  have free (limit : journey.run.context.limits.interruption? journey.now = none) :
      journey.run.context.cancelled = false ∧ journey.now < deadline := by
    rw [Limits.interruption?_eq_none_iff] at limit
    exact deadline_eq ▸ limit
  have went {result : StepResult} {verdict : Option Bool} {visits : List Visit}
      (active : journey.run.ending? = none)
      (leaves : result.Leaves journey.run.context verdict)
      (begun : ∀ visit ∈ visits, visit.context.cancelled = false ∧ visit.time < deadline) :
      Bounded deadline timeout { journey with
        run := journey.run.proceed journey.now (.finished result), visits } := by
    obtain ⟨context, tolerated, log, node, phase, same, limits⟩ := Run.proceed_eq leaves
    rw [same, limits]
    exact ⟨registry_eq, deadline_eq, timeout_eq, fun _ => token_eq active, begun⟩
  cases turn with
  | refuse ready limit => exact stopped _ journey.token journey.visits begun
  | carryOut ready limit leaves own sure =>
    refine went (Run.ending?_of_ready ready) leaves (List.forall_mem_append.mpr ⟨begun, ?_⟩)
    simpa using free limit
  | begin ready limit kind served =>
    refine ⟨registry_eq, deadline_eq, timeout_eq, fun _ => token_eq (Run.ending?_of_ready ready),
      List.forall_mem_append.mpr ⟨begun, ?_⟩⟩
    simpa using free limit
  | interrupt suspended limit =>
    exact stopped _ journey.token _ (Visit.forall_mem_settle (fun _ kept => kept) begun)
  | withdraw suspended limit =>
    exact stopped _ true _ (Visit.forall_mem_settle (fun _ kept => kept) begun)
  | finish suspended limit leaves own =>
    exact went (Run.ending?_of_suspended suspended) leaves
      (Visit.forall_mem_settle (fun _ kept => kept) begun)

theorem Bounded.cancel (bounded : Bounded deadline timeout journey) :
    Bounded deadline timeout (journey.after .cancel) :=
  ⟨bounded.registry_eq, bounded.deadline_eq, bounded.timeout_eq, fun _ => rfl, bounded.begun⟩

theorem Bounded.pass (bounded : Bounded deadline timeout journey) (duration : Nat) :
    Bounded deadline timeout (journey.after (.pass duration)) :=
  ⟨bounded.registry_eq, bounded.deadline_eq, bounded.timeout_eq, bounded.token_eq, bounded.begun⟩

theorem Bounded.afterAll (bounded : Bounded deadline timeout journey) (moves : List Move) :
    Bounded deadline timeout (journey.afterAll moves) :=
  afterAll_invariant (fun _ bounded => bounded.registry_eq)
    (fun _ _ bounded turn => bounded.turn turn) (fun _ bounded => bounded.cancel)
    (fun _ duration bounded => bounded.pass duration) bounded moves

theorem bounded_start (graph : Graph) (tolerance : UInt32) (epoch : Nat) (vars : Variables)
    (timeout : UInt64) (now : Nat) (transport : Transport) :
    Bounded (now + timeout.toNat) timeout
      (start graph tolerance epoch vars timeout now transport) where
  registry_eq := rfl
  deadline_eq := rfl
  timeout_eq := rfl
  token_eq _ := rfl
  begun := by simp [start]

theorem Turn.of_late (bounded : Bounded deadline timeout journey) (late : journey.Late deadline)
    (turn : Turn journey after) :
    ∃ e visits, after = { journey with run := journey.run.stop journey.now e, visits } ∧
      visits.map (·.node) = journey.visits.map (·.node) := by
  have stuck : journey.run.context.limits.interruption? journey.now ≠ none :=
    fun free => (bounded.free_iff turn.active).mp free late
  cases turn with
  | refuse ready limit => exact ⟨_, journey.visits, rfl, rfl⟩
  | carryOut ready limit => exact absurd limit stuck
  | begin ready limit => exact absurd limit stuck
  | interrupt suspended limit =>
    exact ⟨_, _, rfl, Visit.map_node_settle journey.visits _⟩
  | withdraw suspended limit => exact absurd limit stuck
  | finish suspended limit => exact absurd limit stuck

theorem Bounded.quiet (bounded : Bounded deadline timeout journey) (late : journey.Late deadline)
    (moves : List Move) : Quiet journey (journey.afterAll moves) := by
  refine (afterAll_invariant
    (p := fun later => Bounded deadline timeout later ∧ later.Late deadline ∧ Quiet journey later)
    (fun _ held => held.1.registry_eq) ?_ ?_ ?_ ⟨bounded, late, rfl, rfl, rfl, rfl⟩ moves).2.2
  · rintro before after ⟨bounded, late, visits, transport, vars, credentials⟩ turn
    obtain ⟨e, settled, rfl, same⟩ := turn.of_late bounded late
    refine ⟨bounded.turn turn, late, same.trans visits, transport, ?_, ?_⟩
    · rw [Run.stop_context]
      exact vars
    · rw [Run.stop_context]
      exact credentials
  · rintro later ⟨bounded, -, visits, transport, vars, credentials⟩
    exact ⟨bounded.cancel, .inl rfl, visits, transport, vars, credentials⟩
  · rintro later duration ⟨bounded, late, visits, transport, vars, credentials⟩
    refine ⟨bounded.pass duration, ?_, visits, transport, vars, credentials⟩
    exact late.imp_right fun reached => Nat.le_add_right_of_le reached

theorem Bounded.final (bounded : Bounded deadline timeout journey) {ending : Ending}
    (ended : journey.run.ending? = some ending) (moves : List Move) :
    (journey.afterAll moves).run.ending? = some ending := by
  refine (afterAll_invariant
    (p := fun later => Bounded deadline timeout later ∧ later.run.ending? = some ending)
    (fun _ held => held.1.registry_eq) ?_ ?_ ?_ ⟨bounded, ended⟩ moves).2
  · rintro before after ⟨-, ended⟩ turn
    rw [turn.active] at ended
    cases ended
  · rintro later ⟨bounded, ended⟩
    exact ⟨bounded.cancel, ended⟩
  · rintro later duration ⟨bounded, ended⟩
    exact ⟨bounded.pass duration, ended⟩

theorem after_look_of_interrupted {reason : Interruption} (active : journey.run.ending? = none)
    (limit : journey.run.context.limits.interruption? journey.now = some reason) :
    (journey.after .look).run = journey.run.stop journey.now (.interrupted reason) := by
  cases phase : journey.run.phase with
  | ready => rw [after_look_of_refused phase limit]
  | suspended step =>
    rw [after_look_of_suspended phase, Suspended.look_of_interrupted limit]
    rfl
  | ended ending => simp [Run.ending?, phase] at active

/-- A run that is late does not outlast the next look. -/
theorem Bounded.stops (bounded : Bounded deadline timeout journey)
    (late : journey.Late deadline) : (journey.after .look).run.ending? ≠ none := by
  cases ended : journey.run.ending? with
  | some ending =>
    have kept : (journey.after .look).run.ending? = some ending := bounded.final ended [.look]
    simp [kept]
  | none =>
    cases limit : journey.run.context.limits.interruption? journey.now with
    | some reason => simp [after_look_of_interrupted ended limit, Run.ending?_stop]
    | none => exact absurd late ((bounded.free_iff ended).mp limit)

theorem Bounded.endsBy_stop (bounded : Bounded deadline timeout journey)
    (active : journey.run.ending? = none) {reason : Interruption}
    (limit : journey.run.context.limits.interruption? journey.now = some reason) :
    EndsBy deadline timeout journey.token journey.now
      (journey.run.endingOf journey.now (.interrupted reason)) := by
  rw [bounded.token_eq active, ← bounded.deadline_eq, ← bounded.timeout_eq]
  cases reason with
  | cancelled =>
    -- The deadline may have passed as well, but the cancellation comes first.
    have cancelled : journey.run.context.cancelled = true :=
      (Limits.interruption?_eq_cancelled_iff _ _).mp limit
    exact {
      time := rfl
      cancelled := iff_of_true rfl cancelled
      noError := fun _ => rfl
      timedOut := iff_of_false nofun (by simp [cancelled])
      error := nofun }
  | timedOut =>
    obtain ⟨quiet, reached⟩ := (Limits.interruption?_eq_timedOut_iff _ _).mp limit
    have running : journey.run.context.cancelled = false := quiet
    exact {
      time := rfl
      cancelled := iff_of_false nofun (by simp [running])
      noError := nofun
      timedOut := iff_of_true rfl ⟨running, reached⟩
      error := fun _ => rfl }

theorem Bounded.endsBy_proceed (bounded : Bounded deadline timeout journey)
    (active : journey.run.ending? = none)
    (limit : journey.run.context.limits.interruption? journey.now = none) {result : StepResult}
    (own : ∀ reason, result ≠ .error (.interrupted reason)) {ending : Ending}
    (ended : (journey.run.proceed journey.now (.finished result)).ending? = some ending) :
    EndsBy deadline timeout journey.token journey.now ending := by
  rw [Run.ending?_eq_some_iff] at ended
  obtain ⟨outcome, time⟩ := Run.proceed_ending own ended
  have early := (bounded.free_iff active).mp limit
  rw [not_late_iff] at early
  have notCancelled : ending.outcome ≠ .cancelled := by
    rcases outcome with outcome | outcome <;> simp [outcome]
  have notTimedOut : ending.outcome ≠ .timedOut := by
    rcases outcome with outcome | outcome <;> simp [outcome]
  exact {
    time
    cancelled := iff_of_false notCancelled (by simp [early.1])
    noError := fun same => absurd same notCancelled
    timedOut := iff_of_false notTimedOut fun late => Nat.not_le.mpr early.2 late.2
    error := fun same => absurd same notTimedOut }

/-- The moment at which a run stops tells how it ends. -/
theorem Turn.ends (bounded : Bounded deadline timeout journey) (turn : Turn journey after)
    {ending : Ending} (ended : after.run.ending? = some ending) :
    EndsBy deadline timeout after.token journey.now ending := by
  have active := turn.active
  cases turn with
  | refuse ready limit =>
    rw [Run.ending?_stop] at ended
    cases ended
    exact bounded.endsBy_stop active limit
  | carryOut ready limit leaves own sure => exact bounded.endsBy_proceed active limit own ended
  | begin => cases ended
  | interrupt suspended limit =>
    rw [Run.ending?_stop] at ended
    cases ended
    exact bounded.endsBy_stop active limit
  | withdraw suspended limit =>
    rw [Run.ending?_stop] at ended
    cases ended
    exact {
      time := rfl
      cancelled := iff_of_true rfl rfl
      noError := fun _ => rfl
      timedOut := iff_of_false nofun nofun
      error := nofun }
  | finish suspended limit leaves own => exact bounded.endsBy_proceed active limit own ended

theorem Bounded.ends (bounded : Bounded deadline timeout journey)
    (active : journey.run.ending? = none) {ending : Ending}
    (ended : (journey.after .look).run.ending? = some ending) :
    EndsBy deadline timeout (journey.after .look).token journey.now ending := by
  have single {before after : Journey} (bounded : Bounded deadline timeout before)
      (active : before.run.ending? = none) (turn : ReflGen Turn before after)
      (ended : after.run.ending? = some ending) :
      EndsBy deadline timeout after.token before.now ending := by
    cases turn with
    | refl =>
      rw [active] at ended
      cases ended
    | single turn => exact turn.ends bounded ended
  rcases look_cases bounded.registry_eq with turn | ⟨step, transport, begun, -, -, turn⟩
  · exact single bounded active turn ended
  · have waiting := single (bounded.turn begun) rfl turn ended
    exact waiting

theorem Turn.discarded (bounded : Bounded deadline timeout journey) (turn : Turn journey after)
    (token : after.token = true) : after.run.context = journey.run.context := by
  have active := turn.active
  have kept := journey.run.stop_context journey.now
  cases turn with
  | refuse => exact kept _
  | carryOut ready limit => exact absurd (.inl token) ((bounded.free_iff active).mp limit)
  | begin => rfl
  | interrupt => exact kept _
  | withdraw => exact kept _
  | finish suspended limit => exact absurd (.inl token) ((bounded.free_iff active).mp limit)

theorem Bounded.discarded (bounded : Bounded deadline timeout journey)
    (token : (journey.after .look).token = true) :
    (journey.after .look).run.context = journey.run.context := by
  have single {before after : Journey} (bounded : Bounded deadline timeout before)
      (turn : ReflGen Turn before after) (token : after.token = true) :
      after.run.context = before.run.context := by
    cases turn with
    | refl => rfl
    | single turn => exact turn.discarded bounded token
  rcases look_cases bounded.registry_eq with turn | ⟨step, transport, begun, -, -, turn⟩
  · exact single bounded turn token
  · have waiting := single (bounded.turn begun) turn token
    exact waiting

theorem transport_of_suspended {step : Suspended} (suspended : journey.run.phase = .suspended step)
    (turn : ReflGen Turn journey after) : after.transport = journey.transport := by
  cases turn with
  | refl => rfl
  | single turn =>
    cases turn with
    | begin ready => cases ready.symm.trans suspended
    | refuse | carryOut | interrupt | withdraw | finish => rfl

theorem Bounded.handsOver_of_served (bounded : Bounded deadline timeout journey)
    (active : journey.run.ending? = none)
    (limit : journey.run.context.limits.interruption? journey.now = none) {transport : Transport}
    (served : journey.transport.Served transport journey.run.context.limits journey.now) :
    journey.HandsOver deadline transport := by
  have early := (bounded.free_iff active).mp limit
  rw [not_late_iff] at early
  rcases served with same | ⟨request, sent⟩
  · exact .inl same
  · refine .inr ⟨request, early.1, early.2, ?_⟩
    rw [sent, ← bounded.deadline_eq]
    rfl

theorem Turn.handsOver (bounded : Bounded deadline timeout journey) (turn : Turn journey after) :
    journey.HandsOver deadline after.transport := by
  cases turn with
  | begin ready limit kind served =>
    exact bounded.handsOver_of_served (Run.ending?_of_ready ready) limit served
  | refuse | carryOut | interrupt | withdraw | finish => exact .inl rfl

theorem Bounded.handsOver (bounded : Bounded deadline timeout journey) :
    journey.HandsOver deadline (journey.after .look).transport := by
  rcases look_cases bounded.registry_eq with turn | ⟨step, transport, begun, limit, served, turn⟩
  · generalize journey.after .look = after at turn
    cases turn with
    | refl => exact .inl rfl
    | single turn => exact turn.handsOver bounded
  · rw [transport_of_suspended rfl turn]
    exact bounded.handsOver_of_served begun.active limit served

theorem Bounded.punctual (bounded : Bounded deadline timeout journey) :
    Punctual deadline timeout journey where
  begun := bounded.begun
  quiet := bounded.quiet
  discarded := bounded.discarded
  stops := bounded.stops
  final _ ended := bounded.final ended
  ends _ active ended := bounded.ends active ended
  handsOver := bounded.handsOver

/-- The time left to the requests that were sent after some others: always some, and never more
than was left to an earlier one. -/
structure Sends (deadline : Nat) (earlier : List Sent) (journey : Journey) (sent : List Sent) :
    Prop where
  all : journey.transport.sent = earlier ++ sent
  left : ∀ one ∈ sent, 0 < one.timeout ∧ deadline - journey.now ≤ one.timeout
  shrinking : (sent.map (·.timeout)).Pairwise (· ≥ ·)

theorem Turn.now_eq (turn : Turn journey after) : after.now = journey.now := by
  cases turn <;> rfl

theorem sent_send (transport : Transport) (request : Request) (timeout : Nat) :
    (transport.send request timeout).2.sent = transport.sent ∨
      (transport.send request timeout).2.sent = transport.sent ++ [⟨request, timeout⟩] := by
  cases transport with
  | offline => exact .inl rfl
  | scripted replies sent => exact .inr rfl

theorem Sends.turn (bounded : Bounded deadline timeout journey) {earlier sent : List Sent}
    (sends : Sends deadline earlier journey sent) (turn : Turn journey after) :
    ∃ sent, Sends deadline earlier after sent := by
  obtain ⟨all, left, shrinking⟩ := sends
  have same {transport : Transport} (kept : transport.sent = journey.transport.sent)
      (handed : after.transport = transport) : Sends deadline earlier after sent :=
    ⟨by rw [handed, kept, all], turn.now_eq ▸ left, shrinking⟩
  rcases turn.handsOver bounded with kept | ⟨request, token, early, handed⟩
  · exact ⟨sent, same rfl kept⟩
  · -- The time never runs back, so what is left now is left to every earlier request.
    rcases sent_send journey.transport request (deadline - journey.now) with kept | more
    · exact ⟨sent, same kept handed⟩
    · refine ⟨sent ++ [⟨request, deadline - journey.now⟩], ?_, ?_, ?_⟩
      · rw [handed, more, all, List.append_assoc]
      · rw [turn.now_eq, List.forall_mem_append]
        refine ⟨left, ?_⟩
        simp only [List.mem_singleton, forall_eq, le_refl, and_true]
        omega
      · rw [List.map_append, List.pairwise_append]
        refine ⟨shrinking, List.pairwise_singleton _ _, ?_⟩
        intro before member later isLater
        obtain ⟨one, among, rfl⟩ := List.mem_map.mp member
        rw [List.map_singleton, List.mem_singleton] at isLater
        rw [isLater]
        exact (left one among).2

theorem Bounded.sends (bounded : Bounded deadline timeout journey) (moves : List Move) :
    ∃ sent, Sends deadline journey.transport.sent (journey.afterAll moves) sent := by
  refine (afterAll_invariant
    (p := fun later => Bounded deadline timeout later ∧
      ∃ sent, Sends deadline journey.transport.sent later sent)
    (fun _ held => held.1.registry_eq) ?_ ?_ ?_ ⟨bounded, [], by simp, nofun, .nil⟩ moves).2
  · rintro before after ⟨bounded, sent, sends⟩ turn
    exact ⟨bounded.turn turn, sends.turn bounded turn⟩
  · rintro later ⟨bounded, sent, sends⟩
    exact ⟨bounded.cancel, sent, sends.all, sends.left, sends.shrinking⟩
  · rintro later duration ⟨bounded, sent, sends⟩
    refine ⟨bounded.pass duration, sent, sends.all, fun one member => ?_, sends.shrinking⟩
    obtain ⟨some, enough⟩ := sends.left one member
    refine ⟨some, le_trans (Nat.sub_le_sub_left ?_ deadline) enough⟩
    exact Nat.le_add_right later.now duration

/-- A run that has not ended is not behind its deadline, and one that has did not outlast it. -/
def InTime (deadline : Nat) (journey : Journey) : Prop :=
  (journey.run.ending? = none → journey.now ≤ deadline) ∧
    ∀ ending, journey.run.ending? = some ending → ending.time ≤ deadline

theorem wake_le (step : Suspended) (limits : Limits) (now : Nat) :
    step.wake limits now ≤ limits.deadline := by
  cases step with
  | delay duration operation =>
    rw [Suspended.wake, Operation.wake]
    split <;> omega
  | request node request operation =>
    rw [Suspended.wake, Operation.wake]
    split <;> omega

/-- While a run that is looked at in time waits, the next look is due by the deadline. -/
theorem InTime.pass (bounded : Bounded deadline timeout journey) (inTime : journey.InTime deadline)
    {duration : Nat}
    (prompt : ∀ wake ∈ journey.run.wake? journey.now, journey.now + duration ≤ wake) :
    (journey.after (.pass duration)).InTime deadline := by
  refine ⟨fun active => ?_, inTime.2⟩
  change journey.run.ending? = none at active
  change journey.now + duration ≤ deadline
  have now := inTime.1 active
  cases phase : journey.run.phase with
  | ready =>
    have wake : journey.run.wake? journey.now = some journey.now := by simp [Run.wake?, phase]
    exact le_trans (prompt journey.now wake) now
  | suspended step =>
    have bound := wake_le step journey.run.context.limits journey.now
    have wake : journey.run.wake? journey.now =
        some (step.wake journey.run.context.limits journey.now) := by
      simp [Run.wake?, phase]
    exact (prompt _ wake).trans (bounded.deadline_eq ▸ bound)
  | ended ending => simp [Run.ending?, phase] at active

theorem InTime.look (bounded : Bounded deadline timeout journey)
    (inTime : journey.InTime deadline) : (journey.after .look).InTime deadline := by
  cases active : journey.run.ending? with
  | none =>
    have now := inTime.1 active
    refine ⟨fun _ => now, fun ending ended => ?_⟩
    rw [(bounded.ends active ended).time]
    exact now
  | some ending =>
    have kept : (journey.after .look).run.ending? = some ending := bounded.final active [.look]
    refine ⟨fun none => ?_, fun other ended => ?_⟩
    · rw [kept] at none
      cases none
    · rw [kept] at ended
      cases ended
      exact inTime.2 ending active

theorem InTime.afterAll (bounded : Bounded deadline timeout journey)
    (inTime : journey.InTime deadline) {moves : List Move} (prompt : journey.Prompt moves) :
    (journey.afterAll moves).InTime deadline := by
  induction moves generalizing journey with
  | nil => exact inTime
  | cons move moves ih =>
    cases move with
    | look => exact ih (bounded.afterAll [.look]) (inTime.look bounded) prompt
    | cancel => exact ih bounded.cancel inTime prompt
    | pass duration =>
      exact ih (bounded.pass duration) (inTime.pass bounded prompt.1) prompt.2

theorem inTime_start (graph : Graph) (tolerance : UInt32) (epoch : Nat) (vars : Variables)
    (timeout : UInt64) (now : Nat) (transport : Transport) :
    (start graph tolerance epoch vars timeout now transport).InTime (now + timeout.toNat) :=
  ⟨fun _ => Nat.le_add_right now timeout.toNat, nofun⟩

/-- A run is stopped in time, and nothing of it happens after that. -/
theorem afterAll_punctual (graph : Graph) (tolerance : UInt32) (epoch : Nat) (vars : Variables)
    (timeout : UInt64) (now : Nat) (transport : Transport) (moves : List Move) :
    ((start graph tolerance epoch vars timeout now transport).afterAll moves).Punctual
        (now + timeout.toNat) timeout ∧
      (∃ sent, Sends (now + timeout.toNat) transport.sent
        ((start graph tolerance epoch vars timeout now transport).afterAll moves) sent) ∧
      ((start graph tolerance epoch vars timeout now transport).Prompt moves →
        ((start graph tolerance epoch vars timeout now transport).afterAll moves).InTime
          (now + timeout.toNat)) := by
  have bounded := bounded_start graph tolerance epoch vars timeout now transport
  refine ⟨(bounded.afterAll moves).punctual, bounded.sends moves, fun prompt => ?_⟩
  have inTime := inTime_start graph tolerance epoch vars timeout now transport
  exact inTime.afterAll bounded prompt

theorem polling_punctual :
    pollingStart.Prompt pollingMoves ∧ (pollingStart.afterAll pollingMoves).InTime 7 ∧
      (pollingStart.afterAll pollingMoves).Late 7 ∧
      ∀ moves, Quiet (pollingStart.afterAll pollingMoves)
        ((pollingStart.afterAll pollingMoves).afterAll moves) := by
  have prompt : pollingStart.Prompt pollingMoves := by decide
  have late : (pollingStart.afterAll pollingMoves).Late 7 := by
    right
    decide
  obtain ⟨punctual, -, inTime⟩ := afterAll_punctual .polling 0 0 {} 7 0 .offline pollingMoves
  exact ⟨prompt, inTime prompt, late, punctual.quiet late⟩

end Journey

end Scenario
