import Scenario.Proofs.Template
import Scenario.Variables
/-!
Texts with variables in them.

A template is filled in by one pass from left to right: every token gives way to the text of the
value that its path leads to, or stays as it is written if the path leads nowhere, and nothing else
changes. What a variable holds is not looked at again, whatever it looks like.
-/
namespace Scenario.Variables

open Json (Value)
open Template

/-- What stands in the place of a token. -/
def tokenText (vars : Variables) (token : Token) : List Char :=
  match vars.resolvePath token.path with
  | some v => v.inline.toList
  | none => token.written

def partText (vars : Variables) : Part → List Char
  | .char c => [c]
  | .token one => vars.tokenText one

/-- The text that a template has for a path. -/
def pathText (vars : Variables) (path : List Char) : Option (List Char) :=
  (vars.resolvePath path).map fun v => v.inline.toList

theorem filled_pathText (vars : Variables) : Part.filled vars.pathText = vars.partText := by
  funext part
  cases part with
  | char c => rfl
  | token one =>
    rw [Part.filled, pathText, partText, tokenText]
    cases vars.resolvePath one.path <;> rfl

theorem flatMap_partText_char (vars : Variables) (text : List Char) :
    (text.map Part.char).flatMap vars.partText = text := by
  rw [List.flatMap_map]
  exact List.flatMap_singleton' text

theorem interpolate_of_cuts (vars : Variables) {template : String} {parts : List Part}
    (cuts : Cuts template.toList parts) :
    vars.interpolate template = String.ofList (parts.flatMap vars.partText) := by
  rw [← filled_pathText, ← cuts.render_eq]
  rfl

theorem interpolate_of_unknown (vars : Variables) {template : String} {parts : List Part}
    (cuts : Cuts template.toList parts)
    (unknown : ∀ token, .token token ∈ parts → vars.resolvePath token.path = none) :
    vars.interpolate template = template := by
  have kept : render vars.pathText template.toList = template.toList :=
    cuts.render_eq_self fun token member => by rw [pathText, unknown token member, Option.map_none]
  have same := congrArg String.ofList kept
  rwa [String.ofList_toList] at same

/-- Between plain texts exactly the tokens are replaced. Any template can be cut, however it is cut
it is filled in part by part, and if none of its tokens has a value it stays as it is. -/
theorem interpolate_once (vars : Variables) :
    (∀ (first : List Char) (slots : List Slot), Plain first →
      vars.interpolate (String.ofList (compose first slots)) =
        String.ofList (first ++
          slots.flatMap fun slot => vars.tokenText slot.token ++ slot.behind)) ∧
    ∀ template : String, (∃ parts, Cuts template.toList parts) ∧
      ∀ parts, Cuts template.toList parts →
        vars.interpolate template = String.ofList (parts.flatMap vars.partText) ∧
        ((∀ token, .token token ∈ parts → vars.resolvePath token.path = none) →
          vars.interpolate template = template) := by
  refine ⟨fun first slots plain => ?_, fun template => ⟨exists_cuts template.toList, ?_⟩⟩
  · have cuts := cuts_compose plain slots
    rw [← String.toList_ofList (l := compose first slots)] at cuts
    rw [vars.interpolate_of_cuts cuts, List.flatMap_append, flatMap_partText_char,
      List.flatMap_assoc]
    refine congrArg (fun text => String.ofList (first ++ text))
      (List.flatMap_congr fun slot _ => ?_)
    rw [List.flatMap_cons, flatMap_partText_char, partText]
  · exact fun parts cuts => ⟨vars.interpolate_of_cuts cuts, vars.interpolate_of_unknown cuts⟩

/-- A text that looks like a token, and a number. -/
def echoing : Variables :=
  Dict.ofList [("user", .string "${count}"), ("count", .whole (.ofUInt16 3))]

theorem echoing_interpolated :
    Plain ['$'] ∧
      echoing.interpolate "$${ user }\x7b${ missing}x${count}" = "$${count}\x7b${ missing}x3" := by
  have plain : Plain ['$'] := by decide
  have blank : ∀ c ∈ [' '], Text.isBlank c = true := by simp [Text.isBlank]
  refine ⟨plain, ?_⟩
  have filled := (echoing.interpolate_once).1 ['$']
    [⟨⟨[' '], "user".toList, [' '], blank, blank, by decide, by simp [Text.isBlank]⟩, ['{'],
        by decide⟩,
      ⟨⟨[' '], "missing".toList, [], blank, nofun, by decide, by simp [Text.isBlank]⟩, ['x'],
        by decide⟩,
      ⟨⟨[], "count".toList, [], nofun, nofun, by decide, by simp [Text.isBlank]⟩, [],
        by decide⟩] plain
  exact filled

end Scenario.Variables
