import Scenario.Proofs.Graph.Likeness
import Scenario.Proofs.Run.Journey
import Scenario.Proofs.Run.Regular
/-!
Runs that go the same way.

Two runs are alike if they can be told apart only by their graphs, and, where credentials are hidden,
by credentials: those in force, and the headers and queries of requests. Here each thing that a look
at a run works on is said to be alike in two runs, and a look keeps it so. With `hidden` false, what
is alike is equal.
-/
namespace Scenario

/-- The requests differ in what credentials can bring into them, at most. -/
structure Request.Alike (hidden : Prop) (request twin : Request) : Prop where
  method : twin.method = request.method
  url : twin.url = request.url
  body : twin.body = request.body
  shown : ¬ hidden → twin = request

structure Context.Alike (hidden : Prop) (context twin : Context) : Prop where
  same : twin = { context with credentials := twin.credentials }
  shown : ¬ hidden → twin = context

structure Sent.Alike (hidden : Prop) (sent twin : Sent) : Prop where
  request : sent.request.Alike hidden twin.request
  timeout : twin.timeout = sent.timeout

inductive Transport.Alike (hidden : Prop) : Transport → Transport → Prop where
  | offline : Alike hidden .offline .offline
  | scripted (replies : List Reply) {sent twin : List Sent} :
    List.Forall₂ (Sent.Alike hidden) sent twin →
    Alike hidden (.scripted replies sent) (.scripted replies twin)

inductive Suspended.Alike (hidden : Prop) : Suspended → Suspended → Prop where
  | delay (duration : UInt64) (operation : Operation Unit) :
    Alike hidden (.delay duration operation) (.delay duration operation)
  | request (node : String) {request twin : Request}
    (operation : Operation (Except RequestFailure Response)) : request.Alike hidden twin →
    Alike hidden (.request node request operation) (.request node twin operation)

inductive StepResult.Alike (hidden : Prop) : StepResult → StepResult → Prop where
  | done (report : StepReport) {context twin : Context} : context.Alike hidden twin →
    Alike hidden (.ok (report, context)) (.ok (report, twin))
  | failed (e : StepError) : Alike hidden (.error e) (.error e)

inductive Progress.Alike (hidden : Prop) : Progress → Progress → Prop where
  | finished {result twin : StepResult} : result.Alike hidden twin →
    Alike hidden (.finished result) (.finished twin)
  | suspended {step twin : Suspended} : step.Alike hidden twin →
    Alike hidden (.suspended step) (.suspended twin)

inductive Phase.Alike (hidden : Prop) : Phase → Phase → Prop where
  | ready : Alike hidden .ready .ready
  | suspended {step twin : Suspended} : step.Alike hidden twin →
    Alike hidden (.suspended step) (.suspended twin)
  | ended (ending : Ending) : Alike hidden (.ended ending) (.ended ending)

structure Run.Alike (hidden : Prop) (run twin : Run) : Prop where
  kept : ∃ graph node context phase, twin = { run with graph, node, context, phase }
  flows : run.graph.flow.Alike hidden twin.graph.flow
  node : run.node.Alike hidden twin.node
  context : run.context.Alike hidden twin.context
  phase : run.phase.Alike hidden twin.phase

variable {hidden : Prop}

theorem Request.Alike.refl (request : Request) : request.Alike hidden request :=
  ⟨rfl, rfl, rfl, fun _ => rfl⟩

theorem Context.Alike.refl (context : Context) : context.Alike hidden context :=
  ⟨rfl, fun _ => rfl⟩

theorem Transport.Alike.refl (transport : Transport) : transport.Alike hidden transport := by
  cases transport with
  | offline => exact .offline
  | scripted replies sent =>
    exact .scripted replies (List.forall₂_same.mpr fun _ _ => ⟨.refl _, rfl⟩)

theorem Context.Alike.vars {context twin : Context} (alike : context.Alike hidden twin) :
    twin.vars = context.vars := by rw [alike.same]

theorem Context.Alike.limits {context twin : Context} (alike : context.Alike hidden twin) :
    twin.limits = context.limits := by rw [alike.same]; rfl

theorem Context.Alike.set {context twin : Context} (alike : context.Alike hidden twin)
    (name : String) (value : Json.Value) :
    (context.set name value).Alike hidden (twin.set name value) := by
  constructor
  · rw [alike.same]
    rfl
  · intro open_
    rw [alike.shown open_]

/-- What credentials bring into a request. -/
def Request.sign (request : Request) (credentials : Option Credentials) : Request :=
  { request with
    headers := request.headers.override (credentials.elim [] (·.headers.entries))
    query := credentials.elim [] (·.query) }

/-- A request is filled in without regard to credentials, and signed afterwards. -/
theorem RequestStep.fill_eq (data : RequestStep) (vars : Variables)
    (credentials : Option Credentials) :
    data.fill vars credentials = (data.fill vars none).map (·.sign credentials) := by
  unfold fill
  dsimp only
  split
  · rfl
  · cases data.body.fill vars <;> rfl

theorem Request.sign_alike (request : Request) {context twin : Context}
    (alike : context.Alike hidden twin) :
    (request.sign context.credentials).Alike hidden (request.sign twin.credentials) := by
  refine ⟨rfl, rfl, rfl, fun open_ => ?_⟩
  rw [alike.shown open_]

theorem Transport.Alike.send {transport other : Transport} (alike : transport.Alike hidden other)
    {request twin : Request} (requests : request.Alike hidden twin) (timeout : Nat) :
    (other.send twin timeout).1 = (transport.send request timeout).1 ∧
      ((transport.send request timeout).2).Alike hidden (other.send twin timeout).2 := by
  cases alike with
  | offline => exact ⟨rfl, .offline⟩
  | scripted replies sents =>
    refine ⟨rfl, .scripted replies.tail (List.rel_append sents ?_)⟩
    exact .cons ⟨requests, rfl⟩ .nil

theorem Suspended.Alike.wake {step twin : Suspended} (alike : step.Alike hidden twin)
    (limits : Limits) (now : Nat) : twin.wake limits now = step.wake limits now := by
  cases alike <;> rfl

theorem Suspended.finishRequest_alike {context other : Context}
    (contexts : context.Alike hidden other) (node : String) {request twin : Request}
    (requests : request.Alike hidden twin) (answer : Except RequestFailure Response) :
    (finishRequest context node request answer).Alike hidden
      (finishRequest other node twin answer) := by
  cases answer with
  | error failure => exact .failed _
  | ok response =>
    have report : StepReport.ofRequest twin response = .ofRequest request response := by
      simp only [StepReport.ofRequest, requests.method, requests.url]
    rw [finishRequest, finishRequest, report]
    exact .done _ (contexts.set node response.encode)

theorem Suspended.look_alike {step twin : Suspended} (steps : step.Alike hidden twin)
    {context other : Context} (contexts : context.Alike hidden other) (now : Nat) :
    (step.look context now).Alike hidden (twin.look other now) := by
  cases steps with
  | delay duration operation =>
    rw [look, look, contexts.limits]
    cases operation.look context.limits now with
    | waiting => exact .suspended (.delay duration operation)
    | stopped reason => exact .finished (.failed _)
    | answered answer => exact .finished (.done _ contexts)
  | request node operation requests =>
    rw [look, look, contexts.limits]
    cases operation.look context.limits now with
    | waiting => exact .suspended (.request node operation requests)
    | stopped reason => exact .finished (.failed _)
    | answered answer => exact .finished (finishRequest_alike contexts node requests answer)

/-- Whether a step that puts credentials in force can have them. -/
def Step.resolves (vars : Variables) : Step → Bool
  | .auth data => (data.resolve vars).isOk
  | _ => true

theorem Auth.exists_of_resolves {data : Auth} {vars : Variables}
    (resolves : (Step.auth data).resolves vars = true) :
    ∃ credentials, data.resolve vars = .ok credentials := by
  rw [Step.resolves] at resolves
  cases had : data.resolve vars with
  | ok credentials => exact ⟨credentials, rfl⟩
  | error fault =>
    rw [had] at resolves
    cases resolves

theorem Step.authenticate_alike {context other : Context} (contexts : context.Alike hidden other)
    (data : Auth) : (authenticate data context).Alike hidden (authenticate data other) := by
  unfold authenticate
  rw [contexts.vars]
  cases data.resolve context.vars with
  | error fault => exact .failed _
  | ok credentials =>
    refine .done _ ⟨?_, ?_⟩
    · rw [contexts.same]
    · intro open_
      rw [contexts.shown open_]

theorem Step.start_request_alike (data : RequestStep) (node : String) {context other : Context}
    (contexts : context.Alike hidden other) (now : Nat) {transport second : Transport}
    (transports : transport.Alike hidden second) :
    ((Step.request data).start node context now transport).1.Alike hidden
        ((Step.request data).start node other now second).1 ∧
      ((Step.request data).start node context now transport).2.Alike hidden
        ((Step.request data).start node other now second).2 := by
  rw [start, start, contexts.limits, contexts.vars, data.fill_eq context.vars,
    data.fill_eq context.vars other.credentials]
  cases data.fill context.vars none with
  | error fault => exact ⟨.finished (.failed _), transports⟩
  | ok request =>
    cases context.limits.interruption? now with
    | some reason =>
      simp only [Except.map]
      exact ⟨.finished (.failed _), transports⟩
    | none =>
      have requests := request.sign_alike contexts
      obtain ⟨reply, sent⟩ := transports.send requests (context.limits.remaining now)
      simp only [Except.map, reply]
      exact ⟨.suspended (.request node _ requests), sent⟩

/-- A step that is started leaves both runs alike, if hidden credentials can be had in both. -/
theorem Step.start_alike {step twin : Step} (steps : step.Alike hidden twin) (node : String)
    {context other : Context} (contexts : context.Alike hidden other) (now : Nat)
    {transport second : Transport} (transports : transport.Alike hidden second)
    (resolves : hidden →
      step.resolves context.vars = true ∧ twin.resolves context.vars = true) :
    (step.start node context now transport).1.Alike hidden
        (twin.start node other now second).1 ∧
      (step.start node context now transport).2.Alike hidden
        (twin.start node other now second).2 := by
  cases steps with
  | auth data otherData isHidden =>
    obtain ⟨first, later⟩ := resolves isHidden
    obtain ⟨credentials, had⟩ := Auth.exists_of_resolves first
    obtain ⟨otherCredentials, otherHad⟩ := Auth.exists_of_resolves later
    refine ⟨?_, transports⟩
    rw [start, start, authenticate, authenticate, contexts.vars, had, otherHad]
    refine .finished (.done _ ⟨?_, fun open_ => absurd isHidden open_⟩)
    rw [contexts.same]
  | same =>
    cases step with
    | assertion data =>
      refine ⟨?_, transports⟩
      rw [start, start, Step.assert, Step.assert, contexts.vars]
      exact .finished (.done _ contexts)
    | output template =>
      refine ⟨?_, transports⟩
      rw [start, start, emit, emit, contexts.vars]
      exact .finished (.done _ contexts)
    | assignment data =>
      refine ⟨?_, transports⟩
      rw [start, start, assign, assign, contexts.vars]
      by_cases blank : Text.isBlankText data.name = true
      · rw [if_pos blank, if_pos blank]
        exact .finished (.failed _)
      · rw [if_neg blank, if_neg blank]
        exact .finished (.done _ (contexts.set _ _))
    | auth data => exact ⟨.finished (authenticate_alike contexts data), transports⟩
    | delay duration =>
      rw [start, start, contexts.limits]
      cases context.limits.interruption? now with
      | some reason => exact ⟨.finished (.failed _), transports⟩
      | none => exact ⟨.suspended (.delay duration _), transports⟩
    | request data => exact start_request_alike data node contexts now transports

namespace Run

variable {run twin : Run}

theorem Alike.entryOf (alike : run.Alike hidden twin) (now : Nat) (line : Line) :
    twin.entryOf now line = run.entryOf now line := by
  have ref : twin.node.ref = run.node.ref := by
    rw [Node.ref, Node.ref, alike.node.id, alike.node.kind_eq]
  obtain ⟨graph, node, context, phase, rfl⟩ := alike.kept
  simp only [Run.entryOf, ref]

theorem Alike.write (alike : run.Alike hidden twin) (now : Nat) (line : Line) :
    (run.write now line).Alike hidden (twin.write now line) := by
  have entry := alike.entryOf now line
  obtain ⟨kept, flows, node, context, phase⟩ := alike
  obtain ⟨graph, other, otherContext, otherPhase, rfl⟩ := kept
  refine ⟨⟨graph, other, otherContext, otherPhase, ?_⟩, flows, node, context, phase⟩
  simp only [Run.write, entry]

theorem Alike.at_ (alike : run.Alike hidden twin) {phase otherPhase : Phase}
    (phases : phase.Alike hidden otherPhase) {node other : Node} (nodes : node.Alike hidden other) :
    { run with node, phase }.Alike hidden { twin with node := other, phase := otherPhase } := by
  obtain ⟨kept, flows, -, contexts, -⟩ := alike
  obtain ⟨graph, _, otherContext, _, rfl⟩ := kept
  exact ⟨⟨graph, other, otherContext, otherPhase, rfl⟩, flows, nodes, contexts, phases⟩

theorem Alike.finish (alike : run.Alike hidden twin) (now : Nat) (outcome : Outcome)
    (error : Option RunError) :
    (run.finish now outcome error).Alike hidden (twin.finish now outcome error) :=
  alike.at_ (.ended _) alike.node

theorem Alike.stop (alike : run.Alike hidden twin) (now : Nat) (e : StepError) :
    (run.stop now e).Alike hidden (twin.stop now e) := by
  have timeout : twin.context.timeout = run.context.timeout := by rw [alike.context.same]
  cases e with
  | interrupted reason =>
    cases reason with
    | cancelled =>
      rw [Run.stop, Run.stop, alike.node.id]
      exact (alike.write now _).finish now _ _
    | timedOut =>
      rw [Run.stop, Run.stop, timeout]
      exact (alike.write now _).finish now _ _
  | requestFailed failure => exact (alike.write now _).finish now _ _
  | invalid fault => exact (alike.write now _).finish now _ _
  | defect e => exact (alike.write now _).finish now _ _

theorem Alike.advance (alike : run.Alike hidden twin) (now : Nat) (line : Option Line)
    {branch : Option Bool} (next : Graph.NextAlike hidden run.graph twin.graph
      (run.graph.next run.node branch) (twin.graph.next twin.node branch)) :
    (run.advance now line branch).Alike hidden (twin.advance now line branch) := by
  have written : (line.elim run (run.write now)).Alike hidden
      (line.elim twin (twin.write now)) := by
    cases line with
    | none => exact alike
    | some line => exact alike.write now line
  unfold Run.advance
  revert next
  generalize run.graph.next run.node branch = chosen
  generalize twin.graph.next twin.node branch = otherChosen
  rintro (⟨-, -, likes⟩ | - | e)
  · exact written.at_ .ready likes
  · exact written.finish now _ _
  · exact (alike.write now _).finish now _ _

theorem Alike.tolerance (alike : run.Alike hidden twin) : twin.tolerance = run.tolerance := by
  obtain ⟨graph, node, context, phase, rfl⟩ := alike.kept
  rfl

theorem Alike.tolerated (alike : run.Alike hidden twin) : twin.tolerated = run.tolerated := by
  obtain ⟨graph, node, context, phase, rfl⟩ := alike.kept
  rfl

/-- Where a failed request is tolerated, it is so in both runs, and they go on alike. -/
theorem Alike.requestFailed (alike : run.Alike hidden twin) (now : Nat) (failure : RequestFailure)
    (next : Graph.NextAlike hidden run.graph twin.graph (run.graph.next run.node none)
      (twin.graph.next twin.node none)) :
    (run.proceed now (.finished (.error (.requestFailed failure)))).Alike hidden
      (twin.proceed now (.finished (.error (.requestFailed failure)))) := by
  rw [Run.proceed, Run.proceed, alike.tolerance, alike.tolerated]
  by_cases tolerable : run.tolerated < run.tolerance.toNat
  · rw [if_pos tolerable, if_pos tolerable]
    have counted : { run with tolerated := run.tolerated + 1 }.Alike hidden
        { twin with tolerance := run.tolerance, tolerated := run.tolerated + 1 } := by
      obtain ⟨kept, flows, node, contexts, phase⟩ := alike
      obtain ⟨graph, otherNode, otherContext, otherPhase, rfl⟩ := kept
      exact ⟨⟨graph, otherNode, otherContext, otherPhase, rfl⟩, flows, node, contexts, phase⟩
    exact counted.advance now _ next
  · rw [if_neg tolerable, if_neg tolerable]
    exact alike.stop now _

theorem Alike.proceed (alike : run.Alike hidden twin) (now : Nat) {result other : StepResult}
    (results : result.Alike hidden other) {branch : Option Bool}
    (leaves : result.Leaves run.context branch)
    (sure : run.node.kind = .assertion → ∃ done, result = .ok done)
    (fits : branch = none ↔ run.node.kind ≠ .assertion)
    (next : ∀ branch, (branch = none ↔ run.node.kind ≠ .assertion) →
      Graph.NextAlike hidden run.graph twin.graph (run.graph.next run.node branch)
        (twin.graph.next twin.node branch)) :
    (run.proceed now (.finished result)).Alike hidden (twin.proceed now (.finished other)) := by
  cases results with
  | done report contexts =>
    rename_i context otherContext
    have taken : { run with context }.Alike hidden { twin with context := otherContext } := by
      obtain ⟨kept, flows, node, -, phase⟩ := alike
      obtain ⟨graph, otherNode, _, otherPhase, rfl⟩ := kept
      exact ⟨⟨graph, otherNode, otherContext, otherPhase, rfl⟩, flows, node, contexts, phase⟩
    rw [Run.proceed, Run.proceed, (leaves report context rfl).1]
    exact taken.advance now _ (next branch fits)
  | failed e =>
    by_cases request : ∃ failure, e = .requestFailed failure
    · obtain ⟨failure, rfl⟩ := request
      have plain : run.node.kind ≠ .assertion := by
        intro asserts
        obtain ⟨done, same⟩ := sure asserts
        cases same
      exact alike.requestFailed now failure (next none (iff_of_true rfl plain))
    · have own := not_exists.mp request
      rw [proceed_of_error run now own, proceed_of_error twin now own]
      exact alike.stop now e

theorem Alike.next (alike : run.Alike hidden twin) (regular : run.Regular)
    (twinRegular : twin.Regular) (branch : Option Bool)
    (fits : branch = none ↔ run.node.kind ≠ .assertion) :
    Graph.NextAlike hidden run.graph twin.graph (run.graph.next run.node branch)
      (twin.graph.next twin.node branch) :=
  Graph.next_alike regular.runnable twinRegular.runnable alike.flows regular.member
    twinRegular.member alike.node fits

theorem Alike.look (alike : run.Alike hidden twin) (regular : run.Regular)
    (twinRegular : twin.Regular) {step other : Suspended} (steps : step.Alike hidden other)
    (plain : run.node.kind ≠ .assertion) (now : Nat) :
    (run.proceed now (step.look run.context now)).Alike hidden
      (twin.proceed now (other.look twin.context now)) := by
  have progress := Suspended.look_alike steps alike.context now
  generalize other.look twin.context now = otherProgress at *
  cases seen : step.look run.context now with
  | suspended waiting =>
    rw [seen] at progress
    cases progress with
    | suspended steps => exact alike.at_ (.suspended steps) alike.node
  | finished result =>
    rw [seen] at progress
    cases progress with
    | finished results =>
      exact alike.proceed now results (Suspended.leaves_of_look seen)
        (fun asserts => absurd asserts plain) (iff_of_true rfl plain)
        (alike.next regular twinRegular)

/-- If a look at the run puts credentials in force, they can be had. -/
def Resolves (run : Run) (now : Nat) : Prop :=
  run.begins now = true → run.node.step.resolves run.context.vars = true

theorem Alike.dispatch (alike : run.Alike hidden twin) (regular : run.Regular)
    (twinRegular : twin.Regular) (ready : run.phase = .ready) (twinReady : twin.phase = .ready)
    (now : Nat) {transport second : Transport} (transports : transport.Alike hidden second)
    (resolves : hidden → run.Resolves now ∧ twin.Resolves now) :
    (run.dispatch now transport).1.Alike hidden (twin.dispatch now second).1 ∧
      (run.dispatch now transport).2.Alike hidden (twin.dispatch now second).2 := by
  unfold Run.dispatch
  rw [alike.context.limits]
  cases limit : run.context.limits.interruption? now with
  | some reason => exact ⟨alike.stop now _, transports⟩
  | none =>
    have found : run.registry.get run.node.kind = .ok run.node.kind := by
      rw [regular.standard]
      rfl
    have otherFound : twin.registry.get twin.node.kind = .ok twin.node.kind := by
      rw [twinRegular.standard]
      rfl
    rw [found, otherFound]
    dsimp only
    rw [Node.start, Node.start, if_pos rfl, if_pos rfl, alike.node.id]
    have begins : run.begins now = true := by
      rw [Run.begins, ready]
      simp [limit]
    have twinBegins : twin.begins now = true := by
      rw [Run.begins, twinReady]
      simp [alike.context.limits, limit]
    have had : hidden → run.node.step.resolves run.context.vars = true ∧
        twin.node.step.resolves run.context.vars = true := by
      intro isHidden
      obtain ⟨own, others⟩ := resolves isHidden
      exact ⟨own begins, alike.context.vars ▸ others twinBegins⟩
    obtain ⟨progress, served⟩ :=
      Step.start_alike alike.node.step run.node.id alike.context now transports had
    rcases Step.start_of_free limit with ⟨result, done, leaves, -, sure⟩ |
      ⟨step, after, waits, plain, -⟩
    · rw [done] at progress served ⊢
      generalize twin.node.step.start run.node.id twin.context now second = started at *
      obtain ⟨otherProgress, otherTransport⟩ := started
      cases progress with
      | finished results =>
        exact ⟨alike.proceed now results leaves sure (Step.verdict_eq_none_iff _ _)
          (alike.next regular twinRegular), served⟩
    · rw [waits] at progress served ⊢
      generalize twin.node.step.start run.node.id twin.context now second = started at *
      obtain ⟨otherProgress, otherTransport⟩ := started
      cases progress with
      | suspended steps => exact ⟨alike.look regular twinRegular steps plain now, served⟩

/-- One look at each of two runs that are alike leaves them alike. -/
theorem Alike.poll (alike : run.Alike hidden twin) (regular : run.Regular)
    (twinRegular : twin.Regular) (now : Nat) {transport second : Transport}
    (transports : transport.Alike hidden second)
    (resolves : hidden → run.Resolves now ∧ twin.Resolves now) :
    (run.poll now transport).1.Alike hidden (twin.poll now second).1 ∧
      (run.poll now transport).2.Alike hidden (twin.poll now second).2 := by
  have phases := alike.phase
  generalize phase : run.phase = own at phases
  generalize otherPhase : twin.phase = others at phases
  unfold Run.poll
  rw [phase, otherPhase]
  cases phases with
  | ready => exact alike.dispatch regular twinRegular phase otherPhase now transports resolves
  | suspended steps =>
    exact ⟨alike.look regular twinRegular steps (regular.waits _ phase) now, transports⟩
  | ended ending => exact ⟨alike, transports⟩

theorem Alike.cancel (alike : run.Alike hidden twin) : run.cancel.Alike hidden twin.cancel := by
  obtain ⟨kept, flows, node, contexts, phase⟩ := alike
  obtain ⟨graph, otherNode, otherContext, otherPhase, rfl⟩ := kept
  refine ⟨⟨graph, otherNode, _, otherPhase, rfl⟩, flows, node, ⟨?_, ?_⟩, phase⟩
  · rw [Run.cancel, contexts.same]
    rfl
  · intro open_
    rw [Run.cancel, contexts.shown open_]
    rfl

theorem Alike.log (alike : run.Alike hidden twin) : twin.log = run.log := by
  obtain ⟨graph, node, context, phase, rfl⟩ := alike.kept
  rfl

theorem Alike.wake? (alike : run.Alike hidden twin) (now : Nat) :
    twin.wake? now = run.wake? now := by
  have phases := alike.phase
  generalize phase : run.phase = own at phases
  generalize otherPhase : twin.phase = others at phases
  rw [Run.wake?, Run.wake?, phase, otherPhase]
  cases phases with
  | ready => rfl
  | suspended steps =>
    dsimp only
    rw [alike.context.limits, steps.wake]
  | ended ending => rfl

theorem Alike.ending? (alike : run.Alike hidden twin) : twin.ending? = run.ending? := by
  have phases := alike.phase
  generalize phase : run.phase = own at phases
  generalize otherPhase : twin.phase = others at phases
  rw [Run.ending?, Run.ending?, phase, otherPhase]
  cases phases with
  | ready => rfl
  | suspended steps => rfl
  | ended ending => rfl

end Run

end Scenario
