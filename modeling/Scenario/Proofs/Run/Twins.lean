import Scenario.Proofs.Run.Likeness
import Scenario.Proofs.Run.Walk
/-!
Journeys that go the same way.

Two runs that are alike stay alike as long as the same happens to both, and what can be seen of them
is the same. Where credentials are hidden this needs that they could be had whenever a step was to
put them in force: a step that cannot have them fails, and that is seen.
-/
namespace Scenario

namespace Journey

variable {hidden : Prop} {journey twin : Journey}

/-- The steps that were started could have the credentials that they put in force. -/
def Granted (journey : Journey) : Prop :=
  ∀ visit ∈ journey.visits, visit.node.step.resolves visit.context.vars = true

instance (journey : Journey) : Decidable journey.Granted :=
  inferInstanceAs (Decidable (∀ visit ∈ _, _))

structure Alike (hidden : Prop) (journey twin : Journey) : Prop where
  regular : journey.run.Regular
  twinRegular : twin.run.Regular
  run : journey.run.Alike hidden twin.run
  transport : journey.transport.Alike hidden twin.transport
  now : twin.now = journey.now

/-- Both journeys have the same log, the same end and the same variables, and whoever looks when
they have to be looked at looks at both at the same time. -/
structure Twins (journey twin : Journey) : Prop where
  log : twin.run.log = journey.run.log
  result : ∀ id, twin.result? id = journey.result? id
  vars : twin.run.context.vars = journey.run.context.vars
  wake : ∀ now, twin.run.wake? now = journey.run.wake? now

theorem Alike.twins (alike : journey.Alike hidden twin) : journey.Twins twin where
  log := alike.run.log
  result := by
    intro id
    rw [result?, result?, Job.result?, Job.result?, alike.run.ending?, alike.run.node.id,
      alike.run.context.vars]
    obtain ⟨graph, node, context, phase, kept⟩ := alike.run.kept
    rw [kept]
  vars := alike.run.context.vars
  wake := alike.run.wake?

theorem granted_of_settle {visits : List Visit} {result : StepResult}
    (granted : ∀ visit ∈ Visit.settle visits result,
      visit.node.step.resolves visit.context.vars = true) :
    ∀ visit ∈ visits, visit.node.step.resolves visit.context.vars = true := by
  rcases visits.eq_nil_or_concat' with rfl | ⟨before, last, rfl⟩
  · rintro visit ⟨⟩
  · rw [Visit.settle_append, List.forall_mem_append, List.forall_mem_singleton] at granted
    rw [List.forall_mem_append, List.forall_mem_singleton]
    exact granted

/-- What a look leaves granted was granted before it, and so was the step that it started. -/
theorem Granted.of_look (granted : (journey.after .look).Granted) :
    journey.Granted ∧ journey.run.Resolves journey.now := by
  have begun : ∀ visit ∈ if journey.run.begins journey.now then
      journey.visits ++ [⟨journey.run.node, journey.now, journey.run.context, none⟩]
      else journey.visits, visit.node.step.resolves visit.context.vars = true := by
    rw [Granted, after] at granted
    dsimp only [visitsAfterLook] at granted
    split at granted
    · exact granted_of_settle granted
    · exact granted
    · exact granted
  by_cases begins : journey.run.begins journey.now = true
  · rw [if_pos begins, List.forall_mem_append, List.forall_mem_singleton] at begun
    exact ⟨begun.1, fun _ => begun.2⟩
  · rw [if_neg begins] at begun
    exact ⟨begun, fun starts => absurd starts begins⟩

theorem Alike.after (alike : journey.Alike hidden twin) (move : Move)
    (granted : hidden → (journey.after move).Granted ∧ (twin.after move).Granted) :
    (journey.after move).Alike hidden (twin.after move) := by
  obtain ⟨regular, twinRegular, run, transport, now⟩ := alike
  cases move with
  | look =>
    have resolves : hidden → journey.run.Resolves journey.now ∧ twin.run.Resolves journey.now := by
      intro isHidden
      obtain ⟨own, other⟩ := granted isHidden
      exact ⟨own.of_look.2, now ▸ other.of_look.2⟩
    obtain ⟨runs, transports⟩ := run.poll regular twinRegular journey.now transport resolves
    constructor
    · exact regular.poll _ _
    · exact twinRegular.poll _ _
    · simpa only [Journey.after, now] using runs
    · simpa only [Journey.after, now] using transports
    · exact now
  | cancel => exact ⟨regular.cancel, twinRegular.cancel, run.cancel, transport, now⟩
  | pass duration =>
    exact ⟨regular, twinRegular, run, transport, congrArg (· + duration) now⟩

theorem afterAll_concat (journey : Journey) (moves : List Move) (move : Move) :
    journey.afterAll (moves ++ [move]) = (journey.afterAll moves).after move :=
  List.foldl_concat after journey move moves

/-- Journeys that are alike stay alike, whatever happens to both. -/
theorem Alike.afterAll (alike : journey.Alike hidden twin) (moves : List Move)
    (granted : hidden → (journey.afterAll moves).Granted ∧ (twin.afterAll moves).Granted) :
    (journey.afterAll moves).Alike hidden (twin.afterAll moves) := by
  -- From the last move back: what is granted in the end was granted before.
  induction moves using List.reverseRecOn with
  | nil => exact alike
  | append_singleton moves move ih =>
    simp only [afterAll_concat] at granted ⊢
    refine (ih fun isHidden => ?_).after move granted
    obtain ⟨own, other⟩ := granted isHidden
    cases move with
    | look => exact ⟨own.of_look.1, other.of_look.1⟩
    | cancel => exact ⟨own, other⟩
    | pass duration => exact ⟨own, other⟩

/-- Graphs of flows that are alike have entries that are alike. -/
theorem alike_start {flow other : Flow} {graph second : Graph}
    (built : Graph.build flow = .ok graph) (otherBuilt : Graph.build other = .ok second)
    (flows : flow.Alike hidden other) (tolerance : UInt32) (epoch : Nat) (vars : Variables)
    (timeout : UInt64) (now : Nat) (transport : Transport) :
    (start graph tolerance epoch vars timeout now transport).Alike hidden
      (start second tolerance epoch vars timeout now transport) := by
  obtain ⟨-, rfl, member, unentered⟩ := (Graph.build_eq_ok_iff flow graph).mp built
  obtain ⟨runnable, rfl, entry⟩ := (Graph.build_eq_ok_iff other second).mp otherBuilt
  obtain ⟨like, present, likes⟩ := flows.nodes graph.entry member
  have isEntry : like = second.entry :=
    runnable.entry.unique ⟨present, flows.unentered likes unentered⟩ entry
  constructor
  · exact Run.regular_start built _ _ _ _ _
  · exact Run.regular_start otherBuilt _ _ _ _ _
  · rw [isEntry] at likes
    exact ⟨⟨second, second.entry, _, _, rfl⟩, flows, likes, .refl _, .ready⟩
  · exact .refl transport
  · rfl

end Journey

end Scenario
