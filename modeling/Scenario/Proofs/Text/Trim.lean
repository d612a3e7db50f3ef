import Mathlib.Data.List.Infix
import Mathlib.Data.List.TakeWhile
import Scenario.Text.Blank
/-!
Trimming.

Trimming takes blanks off both ends of a text and nothing else, so blanks that are put around a
text are taken off again, and a text without blanks at its ends is left as it is.
-/
namespace Scenario.Text

variable {text before after : List Char}

/-- No blank stands at either end. -/
structure Trimmed (text : List Char) : Prop where
  head : ∀ c ∈ text.head?, isBlank c = false
  last : ∀ c ∈ text.getLast?, isBlank c = false

namespace Trimmed

theorem iff_all (text : List Char) :
    Trimmed text ↔ text.head?.all (!isBlank ·) = true ∧ text.getLast?.all (!isBlank ·) = true := by
  simp only [Option.all_eq_true, Bool.not_eq_true']
  exact ⟨fun trimmed => ⟨trimmed.head, trimmed.last⟩, fun ends => ⟨ends.1, ends.2⟩⟩

instance (text : List Char) : Decidable (Trimmed text) := decidable_of_iff' _ (iff_all text)

theorem of_all (solid : ∀ c ∈ text, isBlank c = false) : Trimmed text where
  head _ first := solid _ (List.mem_of_mem_head? first)
  last _ final := solid _ (List.mem_of_mem_getLast? final)

theorem surround (front : Trimmed before) (some : before ≠ []) (text : List Char)
    (back : Trimmed after) (more : after ≠ []) : Trimmed (before ++ text ++ after) where
  head c first := by
    rw [List.append_assoc, List.head?_append_of_ne_nil _ some] at first
    exact front.head c first
  last c final := by
    rw [List.getLast?_append_of_ne_nil _ more] at final
    exact back.last c final

theorem enclosed {first last : Char} (opens : isBlank first = false)
    (closes : isBlank last = false) : Trimmed (first :: text ++ [last]) := by
  have front : Trimmed [first] := of_all (by simpa using opens)
  have back : Trimmed [last] := of_all (by simpa using closes)
  exact front.surround (List.cons_ne_nil first []) text back (List.cons_ne_nil last [])

end Trimmed

theorem trimStart_of_head (head : ∀ c ∈ text.head?, isBlank c = false) : trimStart text = text := by
  cases text with
  | nil => rfl
  | cons c rest => exact List.dropWhile_cons_of_neg (by simp [head c rfl])

theorem trimEnd_of_last (last : ∀ c ∈ text.getLast?, isBlank c = false) : trimEnd text = text := by
  have front : ∀ c ∈ text.reverse.head?, isBlank c = false := by simpa using last
  have kept : text.reverse.dropWhile isBlank = text.reverse := trimStart_of_head front
  rw [trimEnd, kept, List.reverse_reverse]

theorem Trimmed.trimChars_eq (trimmed : Trimmed text) : trimChars text = text := by
  rw [trimChars, trimStart_of_head trimmed.head, trimEnd_of_last trimmed.last]

theorem trimChars_append (blank : ∀ c ∈ after, isBlank c = true) :
    trimChars (text ++ after) = trimChars text := by
  have none : after.dropWhile isBlank = [] := List.dropWhile_eq_nil_iff.mpr blank
  have behind : ∀ front, trimEnd (front ++ after) = trimEnd front := by
    intro front
    have reversed : ∀ c ∈ after.reverse, isBlank c = true := by simpa using blank
    rw [trimEnd, List.reverse_append, List.dropWhile_append_of_pos reversed, trimEnd]
  rw [trimChars, trimChars, trimStart, List.dropWhile_append]
  split
  · rename_i empty
    rw [none, trimStart, List.isEmpty_iff.mp empty]
  · exact behind _

/-- Blanks around a text are taken off, whatever is between them. -/
theorem trimChars_surrounded (front : ∀ c ∈ before, isBlank c = true)
    (back : ∀ c ∈ after, isBlank c = true) :
    trimChars (before ++ text ++ after) = trimChars text := by
  rw [trimChars_append back, trimChars, trimStart, List.dropWhile_append_of_pos front]
  rfl

theorem blanks_append (text : List Char) : text.takeWhile isBlank ++ trimStart text = text :=
  List.takeWhile_append_dropWhile

theorem exists_surrounding (text : List Char) : ∃ before after,
    text = before ++ trimChars text ++ after ∧ (∀ c ∈ before, isBlank c = true) ∧
      ∀ c ∈ after, isBlank c = true := by
  have back : trimEnd (trimStart text) ++
      ((trimStart text).reverse.takeWhile isBlank).reverse = trimStart text := by
    rw [trimEnd, ← List.reverse_append, List.takeWhile_append_dropWhile, List.reverse_reverse]
  refine ⟨text.takeWhile isBlank, ((trimStart text).reverse.takeWhile isBlank).reverse, ?_,
    fun c member => List.mem_takeWhile_imp member,
    fun c member => List.mem_takeWhile_imp (List.mem_reverse.mp member)⟩
  rw [List.append_assoc, trimChars, back, blanks_append]

end Scenario.Text
