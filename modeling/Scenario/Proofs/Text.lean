import Mathlib.Data.List.Basic
import Scenario.Text.Split
/-!
Pieces of text.

Cutting is local: a separator cuts the text into two that are cut by themselves, and a text without
separators is a piece.
-/
namespace Scenario.Text

/-- What holds of each character of a given text is found by looking at them. -/
theorem forall_of_all {p : Char → Prop} [DecidablePred p] {text : List Char}
    (all : (text.all fun c => decide (p c)) = true) : ∀ c ∈ text, p c := by
  simpa only [List.all_eq_true, decide_eq_true_eq] using all

variable {separator : Char}

theorem splitOn_of_free {piece : List Char} (free : separator ∉ piece) :
    splitOn separator piece = [piece] := by
  induction piece with
  | nil => rfl
  | cons c piece ih =>
    rw [List.mem_cons, not_or] at free
    rw [splitOn, if_neg (Ne.symm free.1), ih free.2]

theorem free_of_mem_splitOn {text piece : List Char} (member : piece ∈ splitOn separator text) :
    separator ∉ piece ∧ piece ⊆ text := by
  induction text generalizing piece with
  | nil =>
    obtain rfl := List.mem_singleton.mp member
    exact ⟨List.not_mem_nil, List.nil_subset []⟩
  | cons c rest ih =>
    rw [splitOn] at member
    split at member
    · rcases List.mem_cons.mp member with rfl | later
      · exact ⟨List.not_mem_nil, List.nil_subset _⟩
      · exact ⟨(ih later).1, List.subset_cons_of_subset c (ih later).2⟩
    · rename_i apart
      cases pieces : splitOn separator rest with
      | nil => exact absurd pieces (splitOn_ne_nil separator rest)
      | cons first later =>
        rw [pieces] at ih member
        rcases List.mem_cons.mp member with rfl | other
        · obtain ⟨free, inside⟩ := ih List.mem_cons_self
          rw [List.mem_cons, not_or]
          exact ⟨⟨Ne.symm apart, free⟩, List.cons_subset_cons c inside⟩
        · obtain ⟨free, inside⟩ := ih (List.mem_cons_of_mem _ other)
          exact ⟨free, List.subset_cons_of_subset c inside⟩

theorem eq_nil_of_splitOn {text : List Char} (single : splitOn separator text = [[]]) :
    text = [] := by
  cases text with
  | nil => rfl
  | cons c rest =>
    rw [splitOn] at single
    split at single
    · exact absurd (List.cons.inj single).2 (splitOn_ne_nil separator rest)
    · split at single <;> cases single

theorem splitOn_append_separator (text rest : List Char) :
    splitOn separator (text ++ separator :: rest) =
      splitOn separator text ++ splitOn separator rest := by
  induction text with
  | nil => simp [splitOn]
  | cons c text ih =>
    rw [List.cons_append, splitOn, splitOn]
    split
    · rw [ih, List.cons_append]
    · rw [ih]
      cases pieces : splitOn separator text with
      | nil => exact absurd pieces (splitOn_ne_nil separator text)
      | cons piece later => rfl

theorem splitOn_append {piece : List Char} (free : separator ∉ piece) (rest : List Char) :
    splitOn separator (piece ++ separator :: rest) = piece :: splitOn separator rest := by
  rw [splitOn_append_separator, splitOn_of_free free]
  rfl

theorem splitOn_intercalate {pieces : List (List Char)} (some : pieces ≠ [])
    (free : ∀ piece ∈ pieces, separator ∉ piece) :
    splitOn separator ([separator].intercalate pieces) = pieces := by
  induction pieces with
  | nil => exact absurd rfl some
  | cons piece later ih =>
    obtain ⟨first, others⟩ := List.forall_mem_cons.mp free
    cases later with
    | nil => simpa using splitOn_of_free first
    | cons second more =>
      rw [List.intercalate_cons_cons, List.append_assoc, List.singleton_append,
        splitOn_append first, ih (List.cons_ne_nil second more) others]

theorem intercalate_splitOn (text : List Char) :
    [separator].intercalate (splitOn separator text) = text := by
  induction text with
  | nil => rfl
  | cons c rest ih =>
    obtain ⟨piece, later, cut⟩ := List.exists_cons_of_ne_nil (splitOn_ne_nil separator rest)
    rw [cut] at ih
    rw [splitOn, cut]
    by_cases hit : c = separator
    · rw [if_pos hit, List.intercalate_cons_cons, ih, hit]
      rfl
    · rw [if_neg hit, ← ih]
      cases later <;> simp

theorem splitOn_flatMap {pieces : List (List Char)} (free : ∀ piece ∈ pieces, separator ∉ piece) :
    splitOn separator (pieces.flatMap (· ++ [separator])) = pieces ++ [[]] := by
  induction pieces with
  | nil => rfl
  | cons piece later ih =>
    obtain ⟨first, others⟩ := List.forall_mem_cons.mp free
    rw [List.flatMap_cons, List.append_assoc, List.singleton_append, splitOn_append first,
      ih others, List.cons_append]

theorem splitFirst_append {front : List Char} (free : separator ∉ front) (rest : List Char) :
    splitFirst separator (front ++ separator :: rest) = some (front, rest) := by
  induction front with
  | nil => simp [splitFirst]
  | cons c front ih =>
    rw [List.mem_cons, not_or] at free
    rw [List.cons_append, splitFirst, if_neg (Ne.symm free.1), ih free.2]
    rfl

end Scenario.Text
