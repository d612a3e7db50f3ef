import Scenario.Proofs.Run.Timing
/-!
Runs that are carried out by themselves.

`Run.complete` looks at a run whenever it has to be looked at, and cancels it when it is told to.
What it does is a journey in which no look comes late, so whatever holds of those holds of it.
-/
namespace Scenario.Journey

variable {deadline : Nat} {timeout : UInt64} {journey : Journey}

theorem wake_ge {run : Run} {now wake : Nat} (early : now < run.context.deadline)
    (due : run.wake? now = some wake) : now ≤ wake := by
  cases phase : run.phase with
  | ended ending => simp [Run.wake?, phase] at due
  | ready =>
    simp only [Run.wake?, phase, Option.some.injEq] at due
    exact due.le
  | suspended step =>
    simp only [Run.wake?, phase, Option.some.injEq] at due
    subst due
    have deadline : now < run.context.limits.deadline := early
    cases step with
    | delay duration operation =>
      rw [Suspended.wake, Operation.wake]
      split <;> omega
    | request node request operation =>
      rw [Suspended.wake, Operation.wake]
      split <;> omega

theorem prompt_append (journey : Journey) (moves later : List Move) :
    journey.Prompt (moves ++ later) ↔
      journey.Prompt moves ∧ (journey.afterAll moves).Prompt later := by
  induction moves generalizing journey with
  | nil => simp [Prompt, afterAll]
  | cons move moves ih =>
    cases move with
    | look => exact ih (journey.after .look)
    | cancel => exact ih (journey.after .cancel)
    | pass duration =>
      refine (and_congr_right fun _ => ih (journey.after (.pass duration))).trans ?_
      exact and_assoc.symm

def nextLook (cancelAt : Option Nat) (now wake : Nat) : Nat :=
  match cancelAt with
  | some time => if now < time then min time wake else wake
  | none => wake

theorem nextLook_bounds (cancelAt : Option Nat) {now wake : Nat} (onward : now ≤ wake) :
    now ≤ nextLook cancelAt now wake ∧ nextLook cancelAt now wake ≤ wake := by
  unfold nextLook
  cases cancelAt with
  | none => exact ⟨onward, le_rfl⟩
  | some time =>
    dsimp only
    split <;> omega

def beforeLook (cancelAt : Option Nat) (now : Nat) : List Move :=
  if Operation.cancelledBy cancelAt now then [.cancel] else []

theorem complete_succ (journey : Journey) (cancelAt : Option Nat) (fuel : Nat) :
    Run.complete cancelAt (fuel + 1) journey.now journey.run journey.transport =
      let looked := (journey.afterAll (beforeLook cancelAt journey.now)).after .look
      match looked.run.wake? journey.now with
      | none => (journey.now, looked.run, looked.transport)
      | some wake =>
        Run.complete cancelAt fuel (nextLook cancelAt journey.now wake) looked.run
          looked.transport := by
  rw [Run.complete, beforeLook]
  by_cases cancelled : Operation.cancelledBy cancelAt journey.now = true
  · rw [if_pos cancelled, if_pos cancelled]
    rfl
  · rw [if_neg cancelled, if_neg cancelled]
    rfl

theorem prompt_beforeLook (journey : Journey) (cancelAt : Option Nat) (now : Nat) :
    journey.Prompt (beforeLook cancelAt now ++ [.look]) ∧
      (journey.afterAll (beforeLook cancelAt now)).now = journey.now := by
  unfold beforeLook
  split <;> exact ⟨trivial, rfl⟩

theorem afterAll_append (journey : Journey) (moves later : List Move) :
    journey.afterAll (moves ++ later) = (journey.afterAll moves).afterAll later :=
  List.foldl_append

/-- One look of a run that is carried out by itself: it is the last one, or it is followed by some
time up to the next. -/
theorem Bounded.complete_cases (bounded : Bounded deadline timeout journey)
    (cancelAt : Option Nat) (fuel : Nat) :
    let looked := (journey.afterAll (beforeLook cancelAt journey.now)).after .look
    (looked.run.wake? journey.now = none ∧
      Run.complete cancelAt (fuel + 1) journey.now journey.run journey.transport =
        (journey.now, looked.run, looked.transport)) ∨
    ∃ wake, looked.run.wake? journey.now = some wake ∧ journey.now < deadline ∧
      ∃ duration, journey.now + duration = nextLook cancelAt journey.now wake ∧
        journey.now + duration ≤ wake ∧
        let waited := looked.after (.pass duration)
        Run.complete cancelAt (fuel + 1) journey.now journey.run journey.transport =
          Run.complete cancelAt fuel waited.now waited.run waited.transport := by
  have now := (prompt_beforeLook journey cancelAt journey.now).2
  have asked := bounded.afterAll (beforeLook cancelAt journey.now)
  have looked := asked.afterAll [.look]
  rw [complete_succ]
  generalize journey.afterAll (beforeLook cancelAt journey.now) = before at *
  dsimp only
  cases due : (before.after .look).run.wake? journey.now with
  | none => exact .inl ⟨rfl, rfl⟩
  | some wake =>
    -- The look would have ended a run that is late.
    have free := (not_late_iff _ _).mp fun late => asked.stops late (Run.ending?_of_wake due)
    have same : (before.after .look).run.context.deadline = deadline := looked.deadline_eq
    have early : journey.now < deadline := now ▸ free.2
    obtain ⟨onward, inTime⟩ := nextLook_bounds cancelAt (wake_ge (same.symm ▸ early) due)
    have arrives : journey.now + (nextLook cancelAt journey.now wake - journey.now) =
        nextLook cancelAt journey.now wake := by omega
    refine .inr ⟨wake, rfl, early, _, arrives, arrives.symm ▸ inTime, ?_⟩
    change _ = Run.complete cancelAt fuel (before.now + _) _ _
    rw [now, arrives]
    rfl

/-- A run that is carried out by itself makes a journey that is looked at in time. -/
theorem Bounded.complete (bounded : Bounded deadline timeout journey) (cancelAt : Option Nat)
    (fuel : Nat) :
    ∃ moves, journey.Prompt moves ∧
      Run.complete cancelAt fuel journey.now journey.run journey.transport =
        ((journey.afterAll moves).now, (journey.afterAll moves).run,
          (journey.afterAll moves).transport) := by
  induction fuel generalizing journey with
  | zero => exact ⟨[], trivial, rfl⟩
  | succ fuel ih =>
    obtain ⟨prompt, now⟩ := prompt_beforeLook journey cancelAt journey.now
    have split : journey.afterAll (beforeLook cancelAt journey.now ++ [.look]) =
        (journey.afterAll (beforeLook cancelAt journey.now)).after .look := afterAll_append _ _ _
    have looked := bounded.afterAll (beforeLook cancelAt journey.now ++ [.look])
    have unmoved : ((journey.afterAll (beforeLook cancelAt journey.now)).after .look).now =
        journey.now := now
    have step := bounded.complete_cases cancelAt fuel
    dsimp only at step
    rw [← split] at step unmoved
    rcases step with ⟨-, same⟩ | ⟨wake, due, -, duration, -, inTime, same⟩
    · exact ⟨_, prompt, by rw [same, unmoved]⟩
    · obtain ⟨moves, later, completed⟩ := ih (looked.pass duration)
      refine ⟨beforeLook cancelAt journey.now ++ [.look] ++ .pass duration :: moves, ?_, ?_⟩
      · rw [prompt_append]
        refine ⟨prompt, ?_, later⟩
        intro other isWake
        rw [unmoved, due] at isWake
        cases isWake
        rw [unmoved]
        exact inTime
      · rw [afterAll_append, same]
        exact completed

theorem complete_inTime (graph : Graph) (tolerance : UInt32) (epoch : Nat) (vars : Variables)
    (timeout : UInt64) (now : Nat) (transport : Transport) (cancelAt : Option Nat) (fuel : Nat)
    {ending : Ending}
    (ended : (Run.complete cancelAt fuel now
      (.start graph .standard tolerance epoch vars timeout now) transport).2.1.ending? =
        some ending) :
    ending.time ≤ now + timeout.toNat := by
  have bounded := bounded_start graph tolerance epoch vars timeout now transport
  have inTime := inTime_start graph tolerance epoch vars timeout now transport
  obtain ⟨moves, prompt, same⟩ := bounded.complete cancelAt fuel
  have final := congrArg (fun final => final.2.1.ending?) same
  exact (inTime.afterAll bounded prompt).2 ending (final.symm.trans ended)

end Scenario.Journey
