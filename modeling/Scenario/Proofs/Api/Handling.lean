import Scenario.Api.Service
/-!
How requests are handled.

A request is handled step by step, and a step that refuses it ends the handling there. What every
step keeps is kept by the handling, whatever it ends with; and a refusal never looks like success if
no step makes it look so.
-/
namespace Scenario.Api.Handling

variable {α β : Type}

/-- What handling a request comes to, and the service that it leaves. -/
def on (handling : Handling α) (service : Service) : Except Status α × Service :=
  handling.run.run service

section Steps

variable {service : Service}

theorem on_bind (handling : Handling α) (next : α → Handling β) (service : Service) :
    (handling >>= next).on service =
      match handling.on service with
      | (.ok a, service) => (next a).on service
      | (.error status, service) => (.error status, service) := by
  unfold on
  rw [ExceptT.run_bind, StateT.run_bind]
  cases ended : handling.run.run service with
  | mk result left => cases result <;> rfl

theorem on_bind_of_ok {handling : Handling α} {a : α} {left : Service}
    (done : handling.on service = (.ok a, left)) (next : α → Handling β) :
    (handling >>= next).on service = (next a).on left := by
  rw [on_bind, done]

theorem on_bind_eq_ok {handling : Handling α} {next : α → Handling β} {b : β} {left : Service} :
    (handling >>= next).on service = (.ok b, left) ↔ ∃ a between,
      handling.on service = (.ok a, between) ∧ (next a).on between = (.ok b, left) := by
  rw [on_bind]
  rcases handling.on service with ⟨result, between⟩
  constructor
  · intro done
    cases result with
    | error status => cases done
    | ok a => exact ⟨a, between, rfl, done⟩
  · rintro ⟨a, middle, first, rest⟩
    cases first
    exact rest

theorem demand_bind_eq_ok {result : Except Status α} {next : α → Handling β} {b : β}
    {left : Service} : (demand result >>= next).on service = (.ok b, left) ↔
      ∃ a, result = .ok a ∧ (next a).on service = (.ok b, left) := by
  rw [on_bind_eq_ok]
  constructor
  · rintro ⟨a, between, first, rest⟩
    cases result with
    | error status => cases first
    | ok a =>
      cases first
      exact ⟨a, rfl, rest⟩
  · rintro ⟨a, rfl, rest⟩
    exact ⟨a, service, rfl, rest⟩

@[simp] theorem on_pure (a : α) (service : Service) :
    (pure a : Handling α).on service = (.ok a, service) := rfl

@[simp] theorem on_map (f : α → β) (handling : Handling α) (service : Service) :
    (f <$> handling).on service =
      ((handling.on service).1.map f, (handling.on service).2) := by
  rw [← bind_pure_comp, on_bind]
  rcases handling.on service with ⟨result, left⟩
  cases result <;> rfl

@[simp] theorem on_refuse (status : Status) (service : Service) :
    (refuse status : Handling α).on service = (.error status, service) := rfl

@[simp] theorem on_demand (result : Except Status α) (service : Service) :
    (demand result).on service = (result, service) := rfl

@[simp] theorem on_onDisk (fuel : Nat) (task : FileTask α) (carrier : Carrier) (service : Service) :
    (onDisk fuel task carrier).on service =
      ((service.onDisk fuel task carrier).1.mapError Status.ofError,
        (service.onDisk fuel task carrier).2) := rfl

@[simp] theorem on_attempt (fuel : Nat) (task : FileTask α) (carrier : Carrier)
    (service : Service) : (attempt fuel task carrier).on service =
      (.ok (service.onDisk fuel task carrier).1, (service.onDisk fuel task carrier).2) := rfl

@[simp] theorem on_newId (service : Service) :
    newId.on service = (.ok service.newId.1, service.newId.2) := rfl

@[simp] theorem on_service (service : Service) :
    Handling.service.on service = (.ok service, service) := rfl

@[simp] theorem on_modify (change : Service → Service) (service : Service) :
    (modify change : Handling Unit).on service = (.ok (), change service) := rfl

theorem onDisk_carrier (fuel : Nat) (task : FileTask α) (carrier : Carrier) (service : Service) :
    service.onDisk fuel task carrier = ((carrier.carry task service.disk).1,
      { service with disk := (carrier.carry task service.disk).2,
                     runner := service.runner.settle fuel }) := rfl

@[simp] theorem onDisk_eq (fuel : Nat) (task : FileTask α) (service : Service) :
    service.onDisk fuel task = ((task.run service.disk).1,
      { service with disk := (task.run service.disk).2,
                     runner := service.runner.settle fuel }) := rfl

end Steps

/-- What holds of the service before the request is handled holds of it afterwards. -/
def Preserves (holds : Service → Prop) (handling : Handling α) : Prop :=
  ∀ service, holds service → holds (handling.on service).2

namespace Preserves

variable {holds : Service → Prop} {handling : Handling α} {next : α → Handling β}

theorem pure (a : α) : Preserves holds (Pure.pure a : Handling α) := fun _ before => before

theorem refuse (status : Status) : Preserves holds (Handling.refuse status : Handling α) :=
  fun _ before => before

theorem ite {c : Prop} [Decidable c] {other : Handling α} (yes : Preserves holds handling)
    (no : Preserves holds other) : Preserves holds (if c then handling else other) := by
  split
  · exact yes
  · exact no

theorem bind (first : Preserves holds handling) (rest : ∀ a, Preserves holds (next a)) :
    Preserves holds (handling >>= next) := by
  intro service before
  have between := first service before
  rw [on_bind]
  cases ended : handling.on service with
  | mk result left =>
    rw [ended] at between
    cases result with
    | error status => exact between
    | ok a => exact rest a left between

theorem demand_bind {result : Except Status α}
    (rest : ∀ a, result = .ok a → Preserves holds (next a)) :
    Preserves holds (demand result >>= next) := by
  cases result with
  | error status => exact fun _ before => before
  | ok a => exact rest a rfl

theorem service_bind {next : Service → Handling β}
    (rest : ∀ service, holds service → Preserves holds (next service)) :
    Preserves holds (Handling.service >>= next) :=
  fun service before => rest service before service before

end Preserves

/-- A request that is refused does not get the status of one that was carried out. -/
def Fair (handling : Handling α) : Prop :=
  ∀ service status, (handling.on service).1 = .error status → status ≠ .ok

theorem ofError_ne_ok (e : FlowError) : Status.ofError e ≠ .ok := by
  cases e with
  | disk fault => cases fault <;> nofun
  | _ => nofun

theorem ne_ok_of_mapError {ε : Type} {result : Except ε α} {toStatus : ε → Status}
    (fair : ∀ e, toStatus e ≠ .ok) (status : Status)
    (refused : result.mapError toStatus = .error status) : status ≠ .ok := by
  cases result with
  | ok a => cases refused
  | error e =>
    cases refused
    exact fair e

namespace Fair

variable {handling : Handling α} {next : α → Handling β}

theorem pure (a : α) : Fair (Pure.pure a : Handling α) := fun _ _ never => nomatch never

theorem refuse {status : Status} (other : status ≠ .ok) :
    Fair (Handling.refuse status : Handling α) := by
  rintro _ _ ⟨⟩
  exact other

theorem demand {result : Except Status α}
    (fair : ∀ status, result = .error status → status ≠ .ok) : Fair (Handling.demand result) :=
  fun _ => fair

theorem service : Fair Handling.service := fun _ _ never => nomatch never

theorem newId : Fair Handling.newId := fun _ _ never => nomatch never

theorem onDisk (fuel : Nat) (task : FileTask α) : Fair (Handling.onDisk fuel task) :=
  fun _ => ne_ok_of_mapError ofError_ne_ok

theorem bind (first : Fair handling) (rest : ∀ a, Fair (next a)) : Fair (handling >>= next) := by
  intro service status refused
  rw [on_bind] at refused
  rcases ended : handling.on service with ⟨result, between⟩
  rw [ended] at refused
  cases result with
  | error other =>
    cases refused
    exact first service status (by rw [ended])
  | ok a => exact rest a between status refused

end Fair

end Scenario.Api.Handling
