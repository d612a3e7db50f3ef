import Mathlib.Data.List.Forall2
/-!
When a computation that may fail succeeds.

A sequence of computations succeeds exactly if each of them does, and a list of them gives a list
of results in the same order. If it does not succeed, its error is that of one of them. Two sequences
that agree step by step agree as a whole.
-/
namespace Scenario.Success
variable {ε ε' α β : Type}

theorem bind_iff {x : Except ε α} {f : α → Except ε β} {b : β} :
    x >>= f = .ok b ↔ ∃ a, x = .ok a ∧ f a = .ok b := by
  cases x <;> simp [bind, Except.bind]

theorem map_iff {f : α → β} {x : Except ε α} {b : β} :
    x.map f = .ok b ↔ ∃ a, x = .ok a ∧ f a = b := by
  cases x <;> simp [Except.map]

theorem mapError_iff {f : ε → ε'} {x : Except ε α} {a : α} :
    x.mapError f = .ok a ↔ x = .ok a := by
  cases x <;> simp [Except.mapError]

theorem unit_bind_iff {x : Except ε Unit} {y : Except ε β} {b : β} :
    (x >>= fun _ => y) = .ok b ↔ x = .ok () ∧ y = .ok b := by
  cases x <;> simp [bind, Except.bind]

theorem forM_iff {f : α → Except ε Unit} {xs : List α} :
    xs.forM f = .ok () ↔ ∀ x ∈ xs, f x = .ok () := by
  induction xs with
  | nil => simp [pure, Except.pure]
  | cons x xs ih =>
    simp only [List.forM_eq_forM, List.forM_cons] at ih ⊢
    rw [unit_bind_iff, ih, List.forall_mem_cons]

/-- A list of pairs is checked the same by its first and by its second components. -/
theorem forM_pairs {f : α → Except ε Unit} {g : β → Except ε Unit} {pairs : List (α × β)}
    (same : ∀ pair ∈ pairs, f pair.1 = g pair.2) :
    (pairs.map Prod.fst).forM f = (pairs.map Prod.snd).forM g := by
  induction pairs with
  | nil => rfl
  | cons pair rest ih =>
    rw [List.forall_mem_cons] at same
    simp only [List.forM_eq_forM, List.map_cons, List.forM_cons] at ih ⊢
    rw [same.1, ih same.2]

theorem mapM_iff {f : α → Except ε β} {xs : List α} {ys : List β} :
    xs.mapM f = .ok ys ↔ List.Forall₂ (fun x y => f x = .ok y) xs ys := by
  induction xs generalizing ys with
  | nil => simp [pure, Except.pure, eq_comm]
  | cons x xs ih =>
    rw [List.mapM_cons]
    constructor
    · intro done
      obtain ⟨y, head, rest⟩ := bind_iff.mp done
      obtain ⟨later, tail, same⟩ := bind_iff.mp rest
      cases same
      exact .cons head (ih.mp tail)
    · rintro (_ | ⟨head, tail⟩)
      rw [head, bind_iff]
      exact ⟨_, rfl, bind_iff.mpr ⟨_, ih.mpr tail, rfl⟩⟩

theorem error_of_bind {x : Except ε α} {f : α → Except ε β} {e : ε} (failed : x >>= f = .error e) :
    x = .error e ∨ ∃ a, x = .ok a ∧ f a = .error e := by
  cases x with
  | error other =>
    cases failed
    exact .inl rfl
  | ok a => exact .inr ⟨a, rfl, failed⟩

theorem error_of_mapM {f : α → Except ε β} {xs : List α} {e : ε} (failed : xs.mapM f = .error e) :
    ∃ x ∈ xs, f x = .error e := by
  induction xs with
  | nil => cases failed
  | cons x xs ih =>
    rw [List.mapM_cons] at failed
    rcases error_of_bind failed with first | ⟨y, -, rest⟩
    · exact ⟨x, List.mem_cons_self, first⟩
    · rcases error_of_bind rest with later | ⟨ys, -, done⟩
      · obtain ⟨other, member, cause⟩ := ih later
        exact ⟨other, List.mem_cons_of_mem x member, cause⟩
      · cases done

/-- Two computations fail with the same error, or have related results. -/
inductive Agree (Related : α → β → Prop) : Except ε α → Except ε β → Prop where
  | error (e : ε) : Agree Related (.error e) (.error e)
  | ok {a : α} {b : β} (related : Related a b) : Agree Related (.ok a) (.ok b)

theorem Agree.bind {α' β' : Type} {Related : α → β → Prop} {Results : α' → β' → Prop}
    {x : Except ε α} {y : Except ε β} {f : α → Except ε α'} {g : β → Except ε β'}
    (first : Agree Related x y) (later : ∀ a b, Related a b → Agree Results (f a) (g b)) :
    Agree Results (x >>= f) (y >>= g) := by
  cases first with
  | error e => exact .error e
  | ok related => exact later _ _ related

theorem Agree.eq_error_iff {Related : α → β → Prop} {x : Except ε α} {y : Except ε β}
    (agree : Agree Related x y) (e : ε) : x = .error e ↔ y = .error e := by
  cases agree with
  | error other => rw [Except.error.injEq, Except.error.injEq]
  | ok related => exact iff_of_false nofun nofun

theorem Agree.of_ok {Related : α → β → Prop} {x : Except ε α} {b : β}
    (agree : Agree Related x (.ok b)) : ∃ a, x = .ok a ∧ Related a b := by
  cases agree with
  | ok related => exact ⟨_, rfl, related⟩

end Scenario.Success
