import Scenario.Proofs.Variables.Path
/-!
References to variables by name.

Any text can name a variable, but `${name}` is a token with the path `name` only if neither blanks
nor a closing brace stand in the name, and at points the path is cut into steps. A name that can be
read is `Legible`; by any other name nothing is found but null and text if nothing else is bound.
-/
namespace Scenario.Variables

open Json (Value)
open Template

/-- The operand that refers to a variable by its name. -/
def reference (name : String) : String := "$\x7b" ++ name ++ "\x7d"

/-- The name is one step of a path. -/
structure Legible (name : String) : Prop where
  ne_nil : name.toList ≠ []
  free : ∀ c ∈ name.toList, c ≠ '.' ∧ c ≠ '}' ∧ Text.isBlank c = false

theorem reference_toList (name : String) :
    (reference name).toList = '$' :: '{' :: (name.toList ++ ['}']) := by
  simp [reference]

/-- A name that may stand in a token is read as a path. -/
theorem resolveOperand_reference (vars : Variables) {name : String} (nonempty : name.toList ≠ [])
    (free : ∀ c ∈ name.toList, c ≠ '}' ∧ Text.isBlank c = false) :
    vars.resolveOperand (reference name) = (vars.resolvePath name.toList).getD .null := by
  have lone : lonePath? (reference name).toList = some name.toList := by
    have none : ∀ c ∈ [], Text.isBlank c = true := List.forall_mem_nil _
    refine lonePath?_eq_some_iff.mpr
      ⟨⟨[], ⟨[], name.toList, [], none, none, nonempty, free⟩, [], none, none⟩, ?_, rfl⟩
    simp [reference_toList, Lone.text, Token.written]
  rw [resolveOperand, lone]

theorem Legible.resolveOperand_reference {name : String} (legible : Legible name)
    (vars : Variables) :
    vars.resolveOperand (reference name) = (vars.get? name).getD .null := by
  have free : '.' ∉ name.toList := fun member => (legible.free '.' member).1 rfl
  rw [Variables.resolveOperand_reference vars legible.ne_nil fun c member =>
    (legible.free c member).2, vars.resolvePath_name free]

/-- The path of a reference does not begin with the name, unless the name is legible. -/
theorem legible_of_lonePath? {name : String} {path : List Char} {steps : List (List Char)}
    (lone : lonePath? (reference name).toList = some path)
    (named : Text.splitOn '.' path = name.toList :: steps) : Legible name := by
  obtain ⟨found, whole, rfl⟩ := lonePath?_eq_some_iff.mp lone
  constructor
  · intro empty
    -- Two braces and a dollar leave no room for a path.
    have room := congrArg List.length whole
    have path := List.length_pos_of_ne_nil found.token.path_ne_nil
    simp only [reference_toList, empty, Lone.text, Token.written, List.length_append,
      List.length_cons, List.length_nil] at room
    omega
  · intro c member
    have first : name.toList ∈ Text.splitOn '.' found.token.path := named ▸ List.mem_cons_self
    obtain ⟨free, inside⟩ := Text.free_of_mem_splitOn first
    refine ⟨?_, found.token.path_free c (inside member)⟩
    rintro rfl
    exact free member

/-- Where nothing else is bound, an illegible name leads to no value but null and text. -/
theorem resolveOperand_of_illegible {vars : Variables} {name : String} (illegible : ¬ Legible name)
    (alone : ∀ other, other ≠ name → vars.get? other = none) :
    vars.resolveOperand (reference name) = .null ∨
      ∃ text, vars.resolveOperand (reference name) = .string text := by
  rw [resolveOperand]
  cases lone : lonePath? (reference name).toList with
  | none => exact .inr ⟨_, rfl⟩
  | some path =>
    left
    dsimp only
    rw [resolvePath]
    cases pieces : Text.splitOn '.' path with
    | nil => rfl
    | cons first steps =>
      have other : String.ofList first ≠ name := by
        rintro rfl
        rw [← String.toList_ofList (l := first)] at pieces
        exact illegible (legible_of_lonePath? lone pieces)
      dsimp only
      rw [alone _ other]
      rfl

end Scenario.Variables
