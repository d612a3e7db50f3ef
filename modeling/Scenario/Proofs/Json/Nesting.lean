import Scenario.Proofs.Json.Number
import Scenario.Proofs.Json.Value
/-!
How deep a value nests that was read.

The reader counts the arrays and objects that are open, so a value that it reads never nests deeper
than it was allowed to.
-/
namespace Scenario.Json

namespace Parser

theorem eq_of_word {letters text rest : List Char} {v read : Value}
    (done : word letters v text = .ok (read, rest)) : read = v := by
  induction text generalizing letters with
  | nil =>
    unfold word at done
    split at done
    · cases done
      rfl
    · cases done
  | cons c later ih =>
    cases letters with
    | nil =>
      cases done
      rfl
    | cons letter letters =>
      unfold word at done
      dsimp only at done
      split at done
      · exact ih done
      · cases done

theorem nesting_of_number {text rest : List Char} {v : Value}
    (done : number text = .ok (v, rest)) : v.nesting = 0 := by
  unfold number at done
  split at done
  all_goals
    obtain ⟨read, -, done⟩ := Success.bind_iff.mp done
    cases done
    rfl

/-- What a reader with so much fuel reads. -/
structure Bounded (fuel : Nat) : Prop where
  value : ∀ {depth text v rest}, value fuel depth text = .ok (v, rest) → v.nesting ≤ depth
  items : ∀ {depth text items rest}, Parser.items fuel depth text = .ok (items, rest) →
    Value.nestingItems items ≤ depth
  fields : ∀ {depth text fields rest}, Parser.fields fuel depth text = .ok (fields, rest) →
    Value.nestingFields fields ≤ depth

theorem Bounded.value_succ {fuel : Nat} (bounded : Bounded fuel) {depth : Nat}
    {text rest : List Char} {v : Value}
    (done : Parser.value (fuel + 1) depth text = .ok (v, rest)) : v.nesting ≤ depth := by
  unfold Parser.value at done
  split at done
  · cases done
  · rw [eq_of_word done]
    exact Nat.zero_le depth
  · rw [eq_of_word done]
    exact Nat.zero_le depth
  · rw [eq_of_word done]
    exact Nat.zero_le depth
  · obtain ⟨⟨s, after⟩, -, done⟩ := Success.bind_iff.mp done
    cases done
    exact Nat.zero_le depth
  · cases depth with
    | zero => cases done
    | succ depth =>
      dsimp only at done
      split at done
      · cases done
        exact Nat.succ_le_succ (Nat.zero_le depth)
      · cases done
      · obtain ⟨⟨items, after⟩, read, done⟩ := Success.bind_iff.mp done
        cases done
        exact Nat.succ_le_succ (bounded.items read)
  · cases depth with
    | zero => cases done
    | succ depth =>
      dsimp only at done
      split at done
      · cases done
        exact Nat.succ_le_succ (Nat.zero_le depth)
      · cases done
      · obtain ⟨⟨fields, after⟩, read, done⟩ := Success.bind_iff.mp done
        cases done
        exact Nat.succ_le_succ (bounded.fields read)
      · cases done
  · split at done
    · rw [nesting_of_number done]
      exact Nat.zero_le depth
    · cases done

theorem Bounded.items_succ {fuel : Nat} (bounded : Bounded fuel) {depth : Nat}
    {text rest : List Char} {items : List Value}
    (done : Parser.items (fuel + 1) depth text = .ok (items, rest)) :
    Value.nestingItems items ≤ depth := by
  unfold Parser.items at done
  obtain ⟨⟨item, after⟩, read, done⟩ := Success.bind_iff.mp done
  have first := bounded.value read
  dsimp only at done
  split at done
  · cases done
    exact Nat.max_le.mpr ⟨first, Nat.zero_le depth⟩
  · cases done
  · split at done
    · cases done
    · cases done
    · obtain ⟨⟨later, behind⟩, others, done⟩ := Success.bind_iff.mp done
      cases done
      exact Nat.max_le.mpr ⟨first, bounded.items others⟩
  · cases done

theorem Bounded.fields_succ {fuel : Nat} (bounded : Bounded fuel) {depth : Nat}
    {text rest : List Char} {fields : List (String × Value)}
    (done : Parser.fields (fuel + 1) depth text = .ok (fields, rest)) :
    Value.nestingFields fields ≤ depth := by
  unfold Parser.fields at done
  obtain ⟨⟨name, afterName⟩, -, done⟩ := Success.bind_iff.mp done
  obtain ⟨afterColon, -, done⟩ := Success.bind_iff.mp done
  obtain ⟨⟨item, after⟩, read, done⟩ := Success.bind_iff.mp done
  obtain ⟨⟨more, behind⟩, -, done⟩ := Success.bind_iff.mp done
  have first := bounded.value read
  dsimp only at done
  split at done
  · obtain ⟨⟨later, final⟩, others, done⟩ := Success.bind_iff.mp done
    cases done
    exact Nat.max_le.mpr ⟨first, bounded.fields others⟩
  · cases done
    exact Nat.max_le.mpr ⟨first, Nat.zero_le depth⟩

theorem bounded (fuel : Nat) : Bounded fuel := by
  induction fuel with
  | zero =>
    constructor
    · rintro depth text v rest ⟨⟩
    · rintro depth text items rest ⟨⟩
    · rintro depth text fields rest ⟨⟩
  | succ fuel ih => exact ⟨ih.value_succ, ih.items_succ, ih.fields_succ⟩

end Parser

/-- A text is read if a value stands at its front and nothing but blanks behind it. -/
theorem value_of_parseAsWritten {text : String} {v : Value} (read : parseAsWritten text = .ok v) :
    ∃ rest, Parser.value (Parser.fuelFor text.toList) Parser.nestingLimit text.toList =
      .ok (v, rest) ∧ Parser.skip rest = [] := by
  unfold parseAsWritten at read
  cases document : Parser.document Parser.nestingLimit text.toList with
  | error stop =>
    rw [document] at read
    cases read
  | ok v =>
    rw [document] at read
    cases read
    unfold Parser.document at document
    obtain ⟨⟨value, rest⟩, read, done⟩ := Success.bind_iff.mp document
    dsimp only at done
    split at done
    · rename_i blank
      cases done
      exact ⟨rest, read, blank⟩
    · cases done

/-- What is read from a text is in order and nests no deeper than the limit. -/
theorem ordered_of_parse {text : String} {v : Value} (read : parse text = .ok v) :
    v.Ordered ∧ v.nesting ≤ Parser.nestingLimit := by
  rw [parse, Success.map_iff] at read
  obtain ⟨written, read, rfl⟩ := read
  obtain ⟨rest, read, -⟩ := value_of_parseAsWritten read
  exact ⟨written.normalize_ordered,
    Nat.le_trans written.nesting_normalize_le ((Parser.bounded _).value read)⟩

end Scenario.Json
