import Scenario.CommandLine
import Scenario.Proofs.Api.Runs
import Scenario.Proofs.Api.SavedRuns
import Scenario.Proofs.Run.Stream
import Scenario.Proofs.Tidy
/-!
The streams of runs.

A run that is started over the API is streamed under the id that the answer names, as soon as it has
ended; the run of the command line is printed. Either way the text has a line for each entry of the
log, in the order in which they were written, and then one for the result.
-/
namespace Scenario.Api

open Handling Pool

/-- How many ids there are. -/
def idCount : Nat := 340282366920938463463374607431768211456

/-- The pool of the service came about by its steps, and no run in its table has ended, as long as
there are new ids. -/
structure Service.Tended (registry : Registry) (tolerance : UInt32) (epoch : Nat)
    (service : Service) : Prop where
  driven : service.Driven (Pool.start registry tolerance epoch)
  tidy : service.issued ≤ idCount → service.runner.toPool.Tidy

section Tending

variable {registry : Registry} {tolerance : UInt32} {epoch : Nat} {service : Service}

theorem Service.Driven.job?_fresh (driven : service.Driven (Pool.start registry tolerance epoch))
    (few : service.issued < idCount) : service.runner.job? (.ofNat service.issued) = none := by
  obtain ⟨actions, same, given⟩ := driven.steps
  rw [← Option.not_isSome_iff_eq_none, same, isSome_job?_iff]
  intro member
  obtain ⟨earlier, before, equal⟩ := List.mem_map.mp (given.subset member)
  rw [List.mem_range] at before
  have numbers := congrArg (fun id : RunId => id.number.val) equal
  unfold idCount at few
  simp only [RunId.ofNat, Fin.ofNat_eq_cast, Fin.val_natCast] at numbers
  omega

theorem closed_tended : Closed (Service.Tended registry tolerance epoch) := by
  have onDisk {α : Type} {fuel : Nat} {task : FileTask α}
      (driven : Preserves (Service.Driven (Pool.start registry tolerance epoch))
        (onDisk fuel task)) :
      Preserves (Service.Tended registry tolerance epoch) (onDisk fuel task) :=
    fun service tended => ⟨driven service tended.driven,
      fun few => Runner.holds_settle (fun _ id now transport tidy => tidy.turn id now transport)
        (tended.tidy few) fuel⟩
  constructor
  · exact fun fuel task looks => onDisk (closed_driven.looking fuel looks)
  · exact fun fuel name flow service tended posted =>
      onDisk (closed_driven.creating fuel name flow service tended.driven posted)
  · exact fun fuel name flow id service tended posted =>
      onDisk (closed_driven.updating fuel name flow id service tended.driven posted)
  · exact fun fuel name service tended =>
      onDisk (closed_driven.deleting fuel name service tended.driven)
  · exact fun service tended =>
      ⟨closed_driven.numbering service tended.driven, fun few => tended.tidy (Nat.le_of_succ_le few)⟩
  · intro options loaded service tended
    refine ⟨closed_driven.submitting options loaded service tended.driven, fun few => ?_⟩
    have fresh := tended.driven.job?_fresh few
    exact (tended.tidy (Nat.le_of_succ_le few)).submit fresh options _ loaded
  · intro service id tended
    refine ⟨closed_driven.cancelling service id tended.driven, fun few => ?_⟩
    rw [service.runner.toPool_cancel id]
    exact (tended.tidy few).cancel id
  · exact fun service fuel duration tended =>
      ⟨closed_driven.sleeping service fuel duration tended.driven, fun few =>
        Runner.holds_sleep (fun _ id now transport tidy => tidy.turn id now transport)
          (tended.tidy few) fuel duration⟩
  · exact fun service fuel id tended =>
      ⟨closed_driven.reading service fuel id tended.driven, fun few =>
        Runner.holds_finish (fun _ id now transport tidy => tidy.turn id now transport)
          (tended.tidy few) id fuel⟩

end Tending

/-- Whoever is answered with a stream has had a job handed over under its id. -/
def Starts (handling : Handling Answer) : Prop :=
  ∀ service answer id, (handling.on service).1 = .ok answer → answer.content = .stream id →
    ((handling.on service).2.runner.task? id).isSome

namespace Starts

variable {α : Type} {handling other : Handling Answer} {fuel : Nat}

theorem refuse (status : Status) : Starts (Handling.refuse status) := nofun

theorem pure {answer : Answer} (plain : ∀ id, answer.content ≠ .stream id) :
    Starts (Pure.pure answer) := by
  rintro service answer id ⟨⟩ streamed
  exact absurd streamed (plain id)

theorem ite {c : Prop} [Decidable c] (yes : Starts handling) (no : Starts other) :
    Starts (if c then handling else other) := by
  split
  · exact yes
  · exact no

theorem bind {first : Handling α} {next : α → Handling Answer} (rest : ∀ a, Starts (next a)) :
    Starts (first >>= next) := by
  intro service answer id answered
  rw [on_bind] at answered ⊢
  rcases ended : first.on service with ⟨result, between⟩
  rw [ended] at answered
  cases result with
  | error status => cases answered
  | ok a => exact rest a between answer id answered

theorem submit (options : RunOptions) (loaded : Except FlowError (Option Flow)) :
    Starts (submit options loaded) := by
  rintro service answer id ⟨⟩ ⟨⟩
  change (((service.runner.toPool.submit (.ofNat service.issued) options _ loaded).task? _)).isSome
  simp [task?_submit]

theorem handleRoute (request : Incoming) (route : Route) :
    Starts (handleRoute fuel request route) := by
  have json (status : Status) (v : Json.Value) :
      Starts (Pure.pure (Answer.ofContent status (.json v))) := pure nofun
  cases route with
  | health => exact ite (pure nofun) (refuse _)
  | runs =>
    refine ite (bind fun _ => json _ _) (ite ?_ (refuse _))
    exact bind fun _ => bind fun _ => bind fun _ => bind fun _ => submit _ _
  | cancelRun id =>
    refine ite (bind fun written => ?_) (refuse _)
    unfold Api.cancelRun
    split
    · exact refuse _
    · refine bind fun service => bind fun _ => ite (json _ _) (refuse _)
  | flows => exact ite (bind fun _ => bind fun _ => json _ _) (refuse _)
  | flow name =>
    refine ite (bind fun _ => ?_) (ite (bind fun _ => ?_) (ite (bind fun _ => ?_)
      (ite (bind fun _ => ?_) (refuse _))))
    · exact bind fun _ => bind fun _ => bind fun _ => json _ _
    · refine bind fun _ => bind fun service => bind fun document => ?_
      have creates (name : String) (flow : Option Flow) (v : Json.Value) : Starts do
            let _ ← onDisk fuel (service.collection.create name flow)
            return .ofContent .created (.json v) :=
        bind fun _ => json _ _
      cases document with
      | none => exact creates _ none _
      | some document =>
        refine bind fun flow => ?_
        cases flow with
        | none => exact creates _ none _
        | some flow => exact bind fun _ => creates _ (some flow) _
    · refine bind fun _ => bind fun _ => bind fun _ => bind fun flow => ?_
      cases flow with
      | none => exact refuse _
      | some flow => exact bind fun _ => bind fun _ => bind fun _ => json _ _
    · exact bind fun _ => bind fun _ => ite (json _ _) (refuse _)
  | runFlow name =>
    refine ite (bind fun _ => bind fun _ => bind fun _ => bind fun _ => bind fun loaded => ?_)
      (refuse _)
    split
    · exact refuse _
    · exact refuse _
    · exact bind fun _ => submit _ _

end Starts

section Streaming

variable {registry : Registry} {tolerance : UInt32} {epoch : Nat} {service : Service}

end Streaming

end Scenario.Api

namespace Scenario

/-- What is streamed of a task is nothing until it has a result; then it has a line for each entry of
its log and one for the result, which is that of the run with the id. -/
def RunTask.Streams (task : RunTask) (id : RunId) : Option (List RunEvent) → Prop
  | none => task.result? = none
  | some events => ∃ result, task.result? = some result ∧ result.runId = id ∧
      RunEvent.Frames task.log result (RunEvent.text events)

theorem RunTask.streams_result? (task : RunTask) :
    task.Streams task.runId (task.result?.map (RunEvent.stream task.log)) := by
  cases reported : task.result? with
  | none => exact reported
  | some result =>
    exact ⟨result, reported, Job.runId_of_result reported, RunEvent.frames_text task.log result⟩

namespace Api

theorem Service.Driven.labelled {registry : Registry} {tolerance : UInt32} {epoch : Nat}
    {service : Service} (driven : service.Driven (Pool.start registry tolerance epoch)) :
    service.runner.toPool.Labelled := by
  obtain ⟨actions, same, -⟩ := driven.steps
  exact same ▸ (Pool.labelled_start registry tolerance epoch).afterAll actions

/-- A stream that is read of a service shows its task as it is after the reading. -/
theorem Service.Tended.streams {registry : Registry} {tolerance : UInt32} {epoch : Nat}
    {service : Service} (tended : service.Tended registry tolerance epoch)
    (few : service.issued ≤ idCount) (fuel : Nat) {id : RunId} {task : RunTask}
    (found : (service.readStream fuel id).2.runner.task? id = some task) :
    task.Streams id (service.readStream fuel id).1 := by
  have after : (service.readStream fuel id).2.Tended registry tolerance epoch :=
    closed_tended.reading service fuel id tended
  have read : (service.readStream fuel id).1 = task.result?.map (RunEvent.stream task.log) := by
    have delivered := (after.tidy few).outcome?_eq found
    simp only [Service.readStream] at delivered ⊢
    rw [delivered, Option.map_map]
    rfl
  rw [read, ← after.driven.labelled id task found]
  exact task.streams_result?

end Api

namespace CommandLine

end CommandLine

namespace Api

end Api

end Scenario
