/-!
Cutting text at a character.

Pieces are lists of characters. Joining the pieces of `splitOn` with the separator gives
the text back; `lines` treats a line break as the end of a line rather than as a separator.
-/
namespace Scenario.Text

/-- The pieces between the separators; there is always at least one. -/
def splitOn (separator : Char) : List Char → List (List Char)
  | [] => [[]]
  | c :: rest =>
    if c = separator then [] :: splitOn separator rest
    else
      match splitOn separator rest with
      | [] => [[c]]
      | piece :: pieces => (c :: piece) :: pieces

def splitFirst (separator : Char) : List Char → Option (List Char × List Char)
  | [] => none
  | c :: rest =>
    if c = separator then some ([], rest)
    else (splitFirst separator rest).map fun parts => (c :: parts.1, parts.2)

def dropReturn (line : List Char) : List Char :=
  (['\r'].isSuffixOf? line).getD line

/-- Lines end at a line feed, together with a carriage return just before it. Text after the
last line feed is a line of its own, and keeps a carriage return. -/
def lines (text : List Char) : List (List Char) :=
  let pieces := splitOn '\n' text
  let last := pieces.getLastD []
  pieces.dropLast.map dropReturn ++ (if last.isEmpty then [] else [last])

/-- Whether the pattern stands somewhere in the text. -/
def occurs (pattern : List Char) : List Char → Bool
  | [] => pattern.isEmpty
  | c :: rest => pattern.isPrefixOf (c :: rest) || occurs pattern rest

theorem splitOn_ne_nil (separator : Char) (text : List Char) : splitOn separator text ≠ [] := by
  cases text with
  | nil => simp [splitOn]
  | cons c rest =>
    rw [splitOn]
    split
    · simp
    · split <;> simp

theorem splitFirst_eq_some {separator : Char} {text before after : List Char}
    (cut : splitFirst separator text = some (before, after)) :
    text = before ++ separator :: after ∧ separator ∉ before := by
  induction text generalizing before with
  | nil => simp [splitFirst] at cut
  | cons c rest ih =>
    rw [splitFirst] at cut
    by_cases hit : c = separator
    · simp only [hit, if_true, Option.some.injEq, Prod.mk.injEq] at cut
      simp [← cut.1, ← cut.2, hit]
    · simp only [hit, if_false, Option.map_eq_some_iff] at cut
      obtain ⟨parts, tail, same⟩ := cut
      simp only [Prod.mk.injEq] at same
      obtain ⟨whole, free⟩ := @ih parts.1 (by rw [tail, ← same.2])
      refine ⟨by simp [← same.1, whole], ?_⟩
      rw [← same.1]
      simp only [List.mem_cons, not_or]
      exact ⟨fun same => hit same.symm, free⟩

end Scenario.Text
