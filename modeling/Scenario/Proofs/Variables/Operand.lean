import Scenario.Proofs.Json.Value
import Scenario.Proofs.Variables.Interpolation
/-!
Operands and values.

An operand is read with its type or as text, by two patterns. On a lone token both find the same path,
and the text is the text of the value between the blanks of the operand; every other operand is text.
In a whole value nothing but the strings is read in this way: each place of the value stays
where it is, and a string without a token stays as it is.
-/
namespace Scenario

namespace Json.Value

/-- The items of an array, or the values of the fields of an object. -/
def children : Value → List Value
  | .array items => items
  | .object fields => fields.map Prod.snd
  | _ => []

/-- The part of a value at a place, which is told by the positions of the parts that it lies in. -/
def below? : List Nat → Value → Option Value
  | [], v => some v
  | i :: place, v => v.children[i]?.bind (below? place)

end Json.Value

namespace Variables

open Json (Value)
open Template

section Operands
variable (vars : Variables) {operand : String}

theorem resolveOperand_lone {lone : Lone} (written : operand.toList = lone.text) :
    vars.resolveOperand operand = (vars.resolvePath lone.token.path).getD .null := by
  rw [resolveOperand, lonePath?_eq_some_iff.mpr ⟨lone, written, rfl⟩]

theorem resolveOperand_of_no_lone (other : ∀ lone : Lone, operand.toList ≠ lone.text) :
    vars.resolveOperand operand = .string (vars.interpolate operand) := by
  rw [resolveOperand]
  cases found : lonePath? operand.toList with
  | none => rfl
  | some path =>
    obtain ⟨lone, written, -⟩ := lonePath?_eq_some_iff.mp found
    exact absurd written (other lone)

theorem interpolate_lone {lone : Lone} (written : operand.toList = lone.text) :
    vars.interpolate operand =
      String.ofList (lone.before ++ vars.tokenText lone.token ++ lone.after) := by
  have cuts : Cuts operand.toList lone.parts := written ▸ lone.cuts
  rw [vars.interpolate_of_cuts cuts, Lone.parts, List.flatMap_append, List.flatMap_cons,
    flatMap_partText_char, flatMap_partText_char, partText, List.append_assoc]

theorem resolveOperand_of_plain (plain : Plain operand.toList) :
    vars.resolveOperand operand = .string operand := by
  have other (lone : Lone) : operand.toList ≠ lone.text :=
    fun written => lone.not_plain (written ▸ plain)
  have unknown (token : Token) (member : .token token ∈ operand.toList.map Part.char) :
      vars.resolvePath token.path = none := by
    obtain ⟨c, -, same⟩ := List.mem_map.mp member
    cases same
  rw [vars.resolveOperand_of_no_lone other, vars.interpolate_of_unknown (cuts_of_plain plain) unknown]

end Operands

section Values
variable (vars : Variables)

theorem resolveItems_eq (items : List Value) :
    vars.resolveItems items = items.map vars.resolveValue := by
  induction items with
  | nil => rfl
  | cons item items ih => rw [resolveItems, ih, List.map_cons]

theorem resolveFields_eq (fields : List (String × Value)) :
    vars.resolveFields fields = fields.map fun field => (field.1, vars.resolveValue field.2) := by
  induction fields with
  | nil => rfl
  | cons field fields ih => rw [resolveFields, ih, List.map_cons]

/-- What becomes of a part: a string is an operand, arrays keep their length, objects their keys, and
everything else is kept. -/
def Filled : Value → Value → Prop
  | .string s, resolved => resolved = vars.resolveOperand s
  | .array items, resolved => ∃ others, resolved = .array others ∧ others.length = items.length
  | .object fields, resolved =>
    ∃ others, resolved = .object others ∧ others.map Prod.fst = fields.map Prod.fst
  | leaf, resolved => resolved = leaf

theorem filled_resolveValue (v : Value) : vars.Filled v (vars.resolveValue v) := by
  cases v with
  | null | bool | number | string => rfl
  | array items =>
    refine ⟨vars.resolveItems items, rfl, ?_⟩
    rw [resolveItems_eq, List.length_map]
  | object fields =>
    refine ⟨vars.resolveFields fields, rfl, ?_⟩
    rw [resolveFields_eq, List.map_map]
    rfl

theorem children_resolveValue {v part : Value} {i : Nat} (found : v.children[i]? = some part) :
    (vars.resolveValue v).children[i]? = some (vars.resolveValue part) := by
  cases v with
  | null | bool | number | string => cases found
  | array items =>
    rw [Value.children] at found
    rw [resolveValue, resolveItems_eq, Value.children, List.getElem?_map, found, Option.map_some]
  | object fields =>
    rw [Value.children, List.getElem?_map, Option.map_eq_some_iff] at found
    obtain ⟨field, found, rfl⟩ := found
    rw [resolveValue, resolveFields_eq, Value.children, List.map_map, List.getElem?_map, found,
      Option.map_some, Function.comp_apply]

theorem below?_resolveValue {place : List Nat} {v part : Value}
    (found : v.below? place = some part) :
    (vars.resolveValue v).below? place = some (vars.resolveValue part) := by
  induction place generalizing v with
  | nil =>
    cases found
    rfl
  | cons i place ih =>
    obtain ⟨child, inside, found⟩ := Option.bind_eq_some_iff.mp found
    rw [Value.below?, vars.children_resolveValue inside, Option.bind_some, ih found]

/-- No string in the value holds the two characters with which a token begins. -/
def Tokenless (v : Value) : Prop :=
  ∀ place s, v.below? place = some (.string s) → Plain s.toList

theorem Tokenless.child {v child : Value} (tokenless : Tokenless v) (inside : child ∈ v.children) :
    Tokenless child := by
  intro place s found
  obtain ⟨i, position⟩ := List.mem_iff_getElem?.mp inside
  apply tokenless (i :: place)
  rw [Value.below?, position, Option.bind_some, found]

theorem resolveValue_of_tokenless {v : Value} (tokenless : Tokenless v) :
    vars.resolveValue v = v := by
  induction v using Value.induction with
  | null | bool | number => rfl
  | string s => exact vars.resolveOperand_of_plain (tokenless [] s rfl)
  | array items ih =>
    have same : items.map vars.resolveValue = items.map id :=
      List.map_congr_left fun item member => ih item member (tokenless.child member)
    rw [resolveValue, resolveItems_eq, same, List.map_id]
  | object fields ih =>
    have same : fields.map (fun field => (field.1, vars.resolveValue field.2)) = fields.map id := by
      apply List.map_congr_left
      intro field member
      rw [ih field member (tokenless.child (List.mem_map_of_mem member)), id]
    rw [resolveValue, resolveFields_eq, same, List.map_id]

end Values

/-- The two readings of an operand agree. What the pattern for lone tokens matches is cut into one token
with the same path and the blanks around it; the operand is the value that the path leads to, and
its text is the text of that value between these blanks. Any other operand is its text. A whole
value keeps its places, with an operand for each string, and is kept if its strings hold no token. -/
theorem operand_read_alike (vars : Variables) :
    (∀ text path, lonePath? text = some path ↔
      ∃ lone : Lone, text = lone.text ∧ lone.token.path = path) ∧
    (∀ (operand : String) (lone : Lone), operand.toList = lone.text →
      pieces operand.toList = lone.before.map .char ++
        .token lone.token.path lone.token.written :: lone.after.map .char ∧
      (∀ v, vars.resolvePath lone.token.path = some v →
        vars.resolveOperand operand = v ∧
        vars.interpolate operand =
          String.ofList (lone.before ++ v.inline.toList ++ lone.after)) ∧
      (vars.resolvePath lone.token.path = none →
        vars.resolveOperand operand = .null ∧ vars.interpolate operand = operand)) ∧
    (∀ operand : String, (∀ lone : Lone, operand.toList ≠ lone.text) →
      vars.resolveOperand operand = .string (vars.interpolate operand)) ∧
    (∀ (v part : Value) (place : List Nat), v.below? place = some part →
      ∃ resolved, (vars.resolveValue v).below? place = some resolved ∧
        vars.Filled part resolved) ∧
    ∀ v, Tokenless v → vars.resolveValue v = v := by
  refine ⟨fun _ _ => lonePath?_eq_some_iff, ?lone, fun _ => vars.resolveOperand_of_no_lone,
    ?places, fun _ => vars.resolveValue_of_tokenless⟩
  case lone =>
    intro operand lone written
    have text := vars.interpolate_lone written
    refine ⟨?_, fun v leads => ⟨?_, ?_⟩, fun leads => ⟨?_, ?_⟩⟩
    · rw [written, lone.cuts.pieces_eq, Lone.parts, List.map_append, List.map_cons, List.map_map,
        List.map_map]
      rfl
    · rw [vars.resolveOperand_lone written, leads, Option.getD_some]
    · rw [text, tokenText, leads]
    · rw [vars.resolveOperand_lone written, leads, Option.getD_none]
    · rw [text, tokenText, leads]
      exact (congrArg String.ofList written.symm).trans String.ofList_toList
  case places =>
    intro v part place found
    exact ⟨_, vars.below?_resolveValue found, vars.filled_resolveValue part⟩

/-- A variable in whose name a token seems to begin, and a number. -/
def nested : Variables :=
  Dict.ofList [("a$\x7bb", .array [.whole (.ofUInt16 7), .null]), ("id", .whole (.ofUInt16 42))]

def nestedToken : Lone :=
  ⟨['\t'], ⟨[' '], "a$\x7bb".toList, [], by simp [Text.isBlank], nofun, by decide,
    by simp [Text.isBlank]⟩, [' ', '\n'], by simp [Text.isBlank], by simp [Text.isBlank]⟩

theorem nested_read_alike :
    nested.resolveOperand "\t$\x7b a$\x7bb\x7d \n" = .array [.whole (.ofUInt16 7), .null] ∧
      nested.interpolate "\t$\x7b a$\x7bb\x7d \n" = "\t[7,null] \n" ∧
      nested.resolveOperand "$\x7bid\x7d$\x7bid\x7d" =
        .string (nested.interpolate "$\x7bid\x7d$\x7bid\x7d") ∧
      (∃ resolved, (nested.resolveValue (.array [.null, .string "$\x7bid\x7d"])).below? [1] =
        some resolved ∧ nested.Filled (.string "$\x7bid\x7d") resolved) ∧
      nested.resolveValue (.string "$ \x7bid\x7d") = .string "$ \x7bid\x7d" := by
  obtain ⟨matching, lone, other, places, kept⟩ := nested.operand_read_alike
  obtain ⟨-, typed, -⟩ := lone "\t$\x7b a$\x7bb\x7d \n" nestedToken (by decide)
  obtain ⟨value, text⟩ := typed (.array [.whole (.ofUInt16 7), .null]) (by decide +kernel)
  refine ⟨value, text.trans (by decide +kernel), other _ fun two written => ?_,
    places _ _ [1] rfl, kept _ ?_⟩
  · have none : lonePath? "$\x7bid\x7d$\x7bid\x7d".toList = none := by decide +kernel
    rw [(matching _ _).mpr ⟨two, written, rfl⟩] at none
    cases none
  · intro place s found
    cases place with
    | nil =>
      cases found
      decide
    | cons i place => cases found

end Variables

end Scenario
