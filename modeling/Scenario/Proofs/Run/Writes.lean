import Scenario.Proofs.Run.World
/-!
What a journey has written.

`Journey.Recording` says that the world of a journey is what its visits have made of the world that
it began with, and that each visit was made in the world that those before it had left behind. While
a step is waited for, the invariant also says how it was started, for its result is only known then.
-/
namespace Scenario

open Relation (ReflGen)

namespace Journey

def world (journey : Journey) : World :=
  ⟨journey.run.context.vars, journey.run.context.credentials, journey.transport⟩

structure Recording (initial : World) (journey : Journey) : Prop where
  world : journey.world = initial.visitAll journey.visits
  admitted : initial.AdmitsAll journey.visits
  /-- The last visit started the step that is waited for. -/
  awaits : ∀ step, journey.run.phase = .suspended step →
    ∃ before last, journey.visits = before ++ [last] ∧
      last.context = { journey.run.context with cancelled := false } ∧
      last.node.step.start last.node.id last.context last.time
        (initial.visitAll before).transport = (.suspended step, journey.transport)

variable {initial : World} {journey : Journey}

/-- A step that is over leaves the world that its visit makes. -/
theorem recording_of_result {run : Run} {now : Nat} {before : List Visit} {visit : Visit}
    {result : StepResult} (isResult : visit.result = some result)
    (same : visit.context = { run.context with cancelled := false })
    (admitted : initial.AdmitsAll before) (admits : (initial.visitAll before).Admits visit)
    {transport : Transport} (served : ((initial.visitAll before).visit visit).transport = transport)
    (token : Bool) :
    Recording initial
      ⟨run.proceed now (.finished result), transport, now, token, before ++ [visit]⟩ where
  world := by
    obtain ⟨vars, credentials⟩ := admits.contextOr isResult
    have kept : (result.contextOr visit.context).vars = (result.contextOr run.context).vars ∧
        (result.contextOr visit.context).credentials =
          (result.contextOr run.context).credentials := by
      rw [same]
      cases result <;> exact ⟨rfl, rfl⟩
    rw [World.visitAll_snoc]
    apply World.ext
    · rw [vars, kept.1, ← run.proceed_context now]
      rfl
    · rw [credentials, kept.2, ← run.proceed_context now]
      rfl
    · exact served.symm
  admitted := (initial.admitsAll_snoc before visit).mpr ⟨admitted, admits⟩
  awaits := by
    intro step suspended
    exact absurd suspended (run.proceed_ne_suspended now result step)

/-- The context of a run that may go on is that of its next visit. -/
theorem Recording.admits (recording : Recording initial journey)
    (free : journey.run.context.limits.interruption? journey.now = none)
    (result : Option StepResult)
    (yields : ∀ given, result = some given → journey.run.node.step.Yields journey.run.node.id
      journey.run.context journey.now journey.transport given) :
    (initial.visitAll journey.visits).Admits
      ⟨journey.run.node, journey.now, journey.run.context, result⟩ := by
  rw [← recording.world]
  exact ⟨rfl, rfl, ((Limits.interruption?_eq_none_iff _ _).mp free).1, yields⟩

theorem Recording.look_of_suspended (recording : Recording initial journey) {step : Suspended}
    (suspended : journey.run.phase = .suspended step) :
    Recording initial (journey.after .look) := by
  obtain ⟨before, last, visits, context, started⟩ := recording.awaits step suspended
  obtain ⟨admitted, admits⟩ := (initial.admitsAll_snoc before last).mp (visits ▸ recording.admitted)
  rw [after_look_of_suspended suspended]
  cases seen : step.look journey.run.context journey.now with
  | suspended other =>
    have same : journey.run.proceed journey.now (.suspended other) = journey.run := by
      rw [Run.proceed, (Suspended.wake_of_look seen).1, ← suspended]
    rw [same]
    exact ⟨recording.world, recording.admitted, recording.awaits⟩
  | finished result =>
    dsimp only
    rw [visits, Visit.settle_append]
    have settled : (initial.visitAll before).Admits { last with result := some result } := by
      refine ⟨admits.vars, admits.credentials, admits.uncancelled, ?_⟩
      rintro given ⟨⟩
      exact Suspended.yields_of_look started context seen
    have isResult : { last with result := some result }.result = some result := rfl
    refine recording_of_result isResult context admitted settled ?_ _
    -- The request was sent when the step was started, and the result does not bear on it.
    have world := recording.world
    rw [visits, World.visitAll_snoc] at world
    exact congrArg World.transport world.symm

theorem Recording.look_of_ready (standard : journey.run.registry = .standard)
    (recording : Recording initial journey) (ready : journey.run.phase = .ready)
    (free : journey.run.context.limits.interruption? journey.now = none) :
    Recording initial (journey.after .look) := by
  have uncancelled := ((Limits.interruption?_eq_none_iff _ _).mp free).1
  have same : journey.run.context = { journey.run.context with cancelled := false } := by
    rw [← uncancelled]
    rfl
  have served (result : Option StepResult) : (journey.world.visit
      ⟨journey.run.node, journey.now, journey.run.context, result⟩).transport =
        (journey.run.node.step.start journey.run.node.id journey.run.context journey.now
          journey.transport).2 :=
    World.transport_of_start free rfl rfl
  cases started : journey.run.node.step.start journey.run.node.id journey.run.context journey.now
    journey.transport with
  | mk progress transport =>
    rw [started] at served
    cases progress with
    | finished result =>
      have admits := recording.admits free (some result) fun given same => by
        cases same
        exact (Step.yields_of_start started).1
      rw [after_look_of_done standard ready free started]
      refine recording_of_result rfl same recording.admitted admits ?_ _
      rw [← recording.world]
      exact served (some result)
    | suspended step =>
      have admits := recording.admits free none fun given absent => by cases absent
      have begun : Recording initial (journey.waiting step transport) := {
        world := by
          change _ = initial.visitAll (journey.visits ++ [_])
          rw [World.visitAll_snoc, ← recording.world]
          exact World.ext rfl rfl (served none).symm
        admitted := (initial.admitsAll_snoc _ _).mpr ⟨recording.admitted, admits⟩
        awaits := by
          rintro other ⟨⟩
          refine ⟨journey.visits, _, rfl, same, ?_⟩
          rw [← recording.world]
          exact started }
      rw [after_look_of_waiting standard ready free started]
      exact begun.look_of_suspended rfl

theorem Recording.look (standard : journey.run.registry = .standard)
    (recording : Recording initial journey) : Recording initial (journey.after .look) := by
  cases phase : journey.run.phase with
  | ended ending =>
    rw [after_look_of_ended phase]
    exact recording
  | suspended step => exact recording.look_of_suspended phase
  | ready =>
    cases limit : journey.run.context.limits.interruption? journey.now with
    | some reason =>
      obtain ⟨log, stopped⟩ := journey.run.stop_eq journey.now (.interrupted reason)
      rw [after_look_of_refused phase limit, stopped]
      refine ⟨recording.world, recording.admitted, ?_⟩
      intro step suspended
      cases suspended
    | none => exact recording.look_of_ready standard phase limit

theorem Recording.cancel (recording : Recording initial journey) :
    Recording initial (journey.after .cancel) where
  world := recording.world
  admitted := recording.admitted
  awaits := recording.awaits

theorem Recording.pass (recording : Recording initial journey) (duration : Nat) :
    Recording initial (journey.after (.pass duration)) where
  world := recording.world
  admitted := recording.admitted
  awaits := recording.awaits

theorem Recording.afterAll {deadline : Nat} {timeout : UInt64}
    (bounded : Bounded deadline timeout journey) (recording : Recording initial journey)
    (moves : List Move) : Recording initial (journey.afterAll moves) := by
  induction moves generalizing journey with
  | nil => exact recording
  | cons move moves ih =>
    cases move with
    | look => exact ih (bounded.afterAll [.look]) (recording.look bounded.registry_eq)
    | cancel => exact ih bounded.cancel recording.cancel
    | pass duration => exact ih (bounded.pass duration) (recording.pass duration)

theorem recording_start (graph : Graph) (tolerance : UInt32) (epoch : Nat) (vars : Variables)
    (timeout : UInt64) (now : Nat) (transport : Transport) :
    Recording ⟨vars, none, transport⟩ (start graph tolerance epoch vars timeout now transport) where
  world := rfl
  admitted := trivial
  awaits := by
    intro step suspended
    cases suspended

section Stop
variable {graph : Graph} {tolerance : UInt32} {before after : Journey} {ending : Ending}

/-- A step that was done and ends a run which does not complete is an assertion that has met a dead
end; one that failed leaves the context as it was. -/
theorem Sound.context_of_deadEnd (sound : Sound graph tolerance before)
    (runnable : graph.flow.Runnable) {result : StepResult} {branch : Option Bool}
    (fits : branch = none ↔ before.run.node.kind ≠ .assertion)
    (leaves : result.Leaves before.run.context branch)
    (ended : (before.run.proceed before.now (.finished result)).phase = .ended ending)
    (incomplete : ending.outcome ≠ .completed) :
    (before.run.proceed before.now (.finished result)).context = before.run.context ∨
      before.run.node.kind = .assertion ∧ ∃ report, result =
        .ok (report, (before.run.proceed before.now (.finished result)).context) := by
  have member : before.run.node ∈ before.run.graph.nodes := sound.graph_eq ▸ sound.member
  rw [Run.proceed_context]
  cases result with
  | error e => exact .inl rfl
  | ok done =>
    obtain ⟨report, context⟩ := done
    rw [Run.proceed, (leaves report context rfl).1] at ended
    rcases Run.advance_cases { before.run with context } (sound.graph_eq ▸ runnable) member fits
      before.now (Run.reportLine report) with ⟨edge, target, log, -, -, -, gone⟩ |
        ⟨log, -, -, gone⟩ | ⟨label, log, verdict, -, gone⟩
    · rw [gone] at ended
      cases ended
    · rw [gone] at ended
      cases ended
      exact absurd rfl incomplete
    · right
      refine ⟨?_, report, rfl⟩
      by_contra other
      rw [fits.mpr other] at verdict
      cases verdict

/-- A step that ends a run which does not complete leaves the context as it was, unless it is an
assertion that was done. -/
theorem Turn.context_of_stop (runnable : graph.flow.Runnable)
    (sound : Sound graph tolerance before) (turn : Turn before after)
    (ended : after.run.phase = .ended ending) (incomplete : ending.outcome ≠ .completed) :
    after.run.context = before.run.context ∨
      ∃ visit ∈ after.visits, visit.node.kind = .assertion ∧
        visit.context = before.run.context ∧
        ∃ report, visit.result = some (.ok (report, after.run.context)) := by
  have stopped := before.run.stop_context before.now
  cases turn with
  | refuse ready limit => exact .inl (stopped _)
  | interrupt suspended limit => exact .inl (stopped _)
  | withdraw suspended limit => exact .inl (stopped _)
  | begin ready => cases ended
  | carryOut ready limit leaves own sure =>
    rcases sound.context_of_deadEnd runnable (Step.verdict_eq_none_iff _ _) leaves ended incomplete
      with same | ⟨kind, report, isOk⟩
    · exact .inl same
    · refine .inr ⟨_, List.mem_append_right _ (List.mem_singleton_self _), kind, rfl, report, ?_⟩
      exact congrArg some isOk
  | finish suspended limit leaves own =>
    obtain ⟨_, last, -, plain, at_⟩ := sound.resuming suspended
    rw [last.verdict_eq_none_iff, (at_ none).same] at plain
    rcases sound.context_of_deadEnd runnable (iff_of_true rfl plain) leaves ended incomplete
      with same | ⟨kind, -⟩
    · exact .inl same
    · exact absurd kind plain

theorem Turn.context_eq_of_stop (runnable : graph.flow.Runnable)
    (sound : Sound graph tolerance before) (turn : Turn before after)
    (recording : Recording initial after) (ended : after.run.phase = .ended ending)
    (incomplete : ending.outcome ≠ .completed) : after.run.context = before.run.context := by
  rcases turn.context_of_stop runnable sound ended incomplete with same |
    ⟨visit, member, kind, context, report, isResult⟩
  · exact same
  · obtain ⟨earlier, later, visits⟩ := List.append_of_mem member
    have admitted := recording.admitted
    rw [visits] at admitted
    have yields := admitted.at.yields _ isResult
    rw [← context]
    generalize after.run.context = left at yields ⊢
    cases step : visit.node.step with
    | assertion data =>
      rw [step] at yields
      cases yields
      rfl
    | request data | delay duration | assignment data | output template | auth data =>
      rw [Node.kind, step] at kind
      cases kind

theorem Recording.context_of_stop (runnable : graph.flow.Runnable)
    (sound : Sound graph tolerance journey) (recording : Recording initial (journey.after .look))
    (ended : (journey.after .look).run.phase = .ended ending)
    (incomplete : ending.outcome ≠ .completed) :
    (journey.after .look).run.context = journey.run.context := by
  have single {before : Journey} (sound : Sound graph tolerance before)
      (turn : ReflGen Turn before (journey.after .look)) :
      (journey.after .look).run.context = before.run.context := by
    generalize journey.after .look = after at *
    cases turn with
    | refl => rfl
    | single turn => exact turn.context_eq_of_stop runnable sound recording ended incomplete
  rcases look_cases sound.registry_eq with turn | ⟨step, transport, begun, -, -, turn⟩
  · exact single sound turn
  · have waiting := single (sound.turn runnable begun) turn
    exact waiting

end Stop

/-- Who has written what in a journey, and what its requests carry. -/
structure Writes (initial : World) (journey : Journey) : Prop where
  world : journey.world = initial.visitAll journey.visits
  found : ∀ before visit after, journey.visits = before ++ visit :: after →
    (initial.visitAll before).Admits visit
  unsigned : (∀ visit ∈ journey.visits, visit.finished = true → visit.node.kind ≠ .auth) →
    journey.run.context.credentials = initial.credentials
  signed : ∀ before visit after data, journey.visits = before ++ visit :: after →
    visit.node.step = .auth data → visit.finished = true →
    (∀ later ∈ after, later.finished = true → later.node.kind ≠ .auth) →
    data.resolve (initial.visitAll before).vars = .ok journey.run.context.credentials
  hands : ∀ before visit after request, journey.visits = before ++ visit :: after →
    (initial.visitAll before).request? visit.node.step = some request →
    ∃ data, visit.node.step = .request data ∧ (initial.visitAll before).Fills data request
  sent : ∀ one ∈ journey.transport.sent, one ∈ initial.transport.sent ∨
    ∃ before visit after data, journey.visits = before ++ visit :: after ∧
      visit.node.step = .request data ∧ (initial.visitAll before).Fills data one.request
  stops : ∀ ending, (journey.after .look).run.phase = .ended ending →
    ending.outcome ≠ .completed → (journey.after .look).run.context = journey.run.context

theorem Recording.writes {graph : Graph} {tolerance : UInt32} (runnable : graph.flow.Runnable)
    (sound : Sound graph tolerance journey) (recording : Recording initial journey) :
    Writes initial journey where
  world := recording.world
  found := by
    intro before visit after visits
    have admitted := recording.admitted
    rw [visits] at admitted
    exact admitted.at
  unsigned := by
    intro none
    rw [← World.credentials_visitAll none, ← recording.world]
    rfl
  signed := by
    intro before visit after data visits isAuth finished last
    have admitted := recording.admitted
    rw [visits] at admitted
    -- The later visits keep the credentials that this one has put in force.
    have kept : journey.run.context.credentials =
        ((initial.visitAll before).visit visit).credentials := by
      rw [← World.credentials_visitAll last]
      have world := recording.world
      rw [visits, World.visitAll_append] at world
      exact congrArg World.credentials world
    rw [kept]
    exact admitted.at.resolve isAuth finished
  hands := by
    intro before visit after request visits handed
    exact World.fills_of_request? handed
  sent := by
    intro one member
    have world := congrArg World.transport recording.world
    change journey.transport = _ at world
    rw [world] at member
    exact World.sent_visitAll member
  stops := by
    intro ending ended incomplete
    have looked := recording.look sound.registry_eq
    exact looked.context_of_stop runnable sound ended incomplete

/-- Whatever a run does, its variables and credentials are what its steps have written, and its
requests are filled in with what the steps before them have written. -/
theorem build_writes {flow : Flow} {graph : Graph} (built : Graph.build flow = .ok graph)
    (tolerance : UInt32) (epoch : Nat) (vars : Variables) (timeout : UInt64) (now : Nat)
    (transport : Transport) (moves : List Move) :
    Writes ⟨vars, none, transport⟩
      ((start graph tolerance epoch vars timeout now transport).afterAll moves) := by
  obtain ⟨runnable, rfl, member, -⟩ := (Graph.build_eq_ok_iff flow graph).mp built
  have recording := (recording_start graph tolerance epoch vars timeout now transport).afterAll
    (bounded_start graph tolerance epoch vars timeout now transport) moves
  have sound : Sound graph tolerance
      ((start graph tolerance epoch vars timeout now transport).afterAll moves) := by
    refine (sound_start member tolerance epoch vars timeout now transport).afterAll runnable moves
  exact recording.writes runnable sound

end Journey

/-- A flow that puts a key in force, names the user and asks for what there is. -/
def Flow.signing : Flow where
  nodes :=
    [⟨"key", .auth (.apiKey "X-Key" "secret" .header), {}⟩,
      ⟨"user", .assignment ⟨"user", .string "Ada"⟩, {}⟩,
      ⟨"ask", .request ⟨.get, "http://localhost", Dict.empty.insert "X-Key" "none", .none⟩, {}⟩]
  edges := [⟨"e0", "key", "user", none, {}⟩, ⟨"e1", "user", "ask", none, {}⟩]

def Graph.signing : Graph where
  flow := .signing
  entry := ⟨"key", .auth (.apiKey "X-Key" "secret" .header), {}⟩

namespace Journey

def signingStart : Journey :=
  start .signing 0 0 {} 7 0 (.scripted [⟨0, false, some (.ok ⟨200, "OK", {}, .null⟩)⟩] [])

theorem signing_writes :
    Graph.build .signing = .ok .signing ∧
      Writes ⟨{}, none, signingStart.transport⟩ (signingStart.afterAll [.look, .look, .look]) ∧
      (signingStart.afterAll [.look, .look, .look]).visits.map (·.node.id) =
        ["key", "user", "ask"] ∧
      ((signingStart.afterAll [.look, .look, .look]).run.context.vars.get? "user") =
        some (.string "Ada") ∧
      (signingStart.afterAll [.look, .look, .look]).transport.sent.map
        (·.request.headers.get? "X-Key") = [some "secret"] := by
  have built : Graph.build .signing = .ok .signing := rfl
  refine ⟨built, build_writes built 0 0 {} 7 0 _ [.look, .look, .look], ?_, ?_, ?_⟩
  · decide
  · decide
  · decide

end Journey

end Scenario
