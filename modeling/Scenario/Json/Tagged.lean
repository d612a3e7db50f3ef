import Scenario.Json.Decode
import Scenario.Json.Parser
/-!
Tagged variants as text.

A variant is read while its text is: a tag that is no good is reported as soon as it has been read,
with the place behind it, and what follows it is not looked at. The content of a variant is decoded
when all of it has been read, and an error in it has no place.
-/
namespace Scenario.Json

inductive TaggedError where
  | notJson (e : SyntaxError)
  | badTag (e : DecodeError) (place : Place)
  | badContent (e : DecodeError)
deriving DecidableEq

def TaggedError.message : TaggedError → String
  | .notJson e => e.message
  | .badTag e place => e.message ++ place.text
  | .badContent e => e.message

namespace Tagged

/-- Reading stopped: the text is not JSON, or its tag is refused with some text left over. -/
inductive Halt where
  | stop (stop : Stop)
  | refused (e : DecodeError) (rest : List Char)

variable {α : Type}

def reading {β : Type} (result : Except Stop β) : Except Halt β := result.mapError .stop

/-- A value that stands where something else is expected; arrays and objects are not read. -/
def unexpected (fuel depth : Nat) (expected : String) (text : List Char) : Except Halt α :=
  match text with
  | '[' :: _ => .error (.refused (.wrongType .sequence expected) text)
  | '{' :: _ => .error (.refused (.wrongType .map expected) text)
  | _ => do
    let (v, rest) ← reading (Parser.value fuel depth text)
    .error (.refused (.wrongType v.found expected) rest)

def tagValue (fuel depth : Nat) (variants : List (Variant α)) (text : List Char) :
    Except Halt (Variant α × List Char) :=
  match Parser.skip text with
  | '"' :: rest => do
    let (name, rest) ← reading (Parser.stringBody [] rest)
    match Variant.ofTag .plain variants (.string name) with
    | .ok variant => .ok (variant, rest)
    | .error e => .error (.refused e rest)
  | text => unexpected fuel depth "variant identifier" text

/-- What is left of an object that is given up: its brace is taken if it stands next. -/
def leaveObject (text : List Char) : List Char :=
  match Parser.skip text with
  | '}' :: rest => rest
  | rest => rest

/-- The fields of an object up to its brace; the opening quote of the first key has been read. -/
def fields (tag : String) (variants : List (Variant α)) :
    (fuel depth : Nat) → (found : Option (Variant α)) → (before : List (String × Value)) →
      List Char → Except Halt (Option (Variant α) × List (String × Value) × List Char)
  | 0, _, _, _, text => .error (.stop (.next .tooDeep text))
  | fuel + 1, depth, found, before, text => do
    let (name, rest) ← reading (Parser.stringBody [] text)
    if name = tag ∧ found.isSome then
      .error (.refused (.duplicateField tag) (leaveObject rest))
    else
      let rest ← reading (Parser.colon rest)
      let (found, before, rest) ←
        if name = tag then do
          let (variant, rest) ← tagValue fuel depth variants rest
          pure (some variant, before, rest)
        else do
          let (v, rest) ← reading (Parser.value fuel depth rest)
          pure (found, before ++ [(name, v)], rest)
      let (more, rest) ← reading (Parser.moreFields rest)
      if more then fields tag variants fuel depth found before rest
      else return (found, before, rest)

def items (fuel depth : Nat) (text : List Char) : Except Stop (List Value × List Char) :=
  match Parser.skip text with
  | ']' :: rest => .ok ([], rest)
  | [] => .error (.next .endInList [])
  | ',' :: rest =>
    match Parser.skip rest with
    | ']' :: rest => .error (.next .trailingComma (']' :: rest))
    | [] => .error (.next .endInValue [])
    | rest => Parser.items fuel depth rest
  | rest => .error (.next .listCommaExpected rest)

/-- A variant and its content at the front of a text. -/
def variant (fuel depth : Nat) (tag kind : String) (variants : List (Variant α))
    (text : List Char) : Except Halt (Variant α × Value × List Char) :=
  match Parser.skip text with
  | '{' :: rest =>
    match Parser.skip rest with
    | '}' :: rest => .error (.refused (.missingField tag) rest)
    | [] => .error (.stop (.next .endInObject []))
    | '"' :: rest => do
      match ← fields tag variants fuel depth none [] rest with
      | (some variant, before, rest) => .ok (variant, .object before, rest)
      | (none, _, rest) => .error (.refused (.missingField tag) rest)
    | rest => .error (.stop (.next .keyNotString rest))
  | '[' :: rest =>
    match Parser.skip rest with
    | ']' :: rest => .error (.refused (.missingField tag) rest)
    | [] => .error (.stop (.next .endInList []))
    | rest => do
      let (variant, rest) ← tagValue fuel depth variants rest
      let (items, rest) ← reading (items fuel depth rest)
      .ok (variant, .array items, rest)
  | text => unexpected fuel depth ("internally tagged enum " ++ kind) text

def Halt.inText (halt : Halt) (text : List Char) : TaggedError :=
  match halt with
  | .stop e => .notJson (e.inText text)
  | .refused e rest => .badTag e (placeIn text rest 0)

end Tagged

/-- The variant that a text writes; `kind` is what messages call its type. -/
def Variant.read {α : Type} (tag kind : String) (variants : List (Variant α)) (text : String) :
    Except TaggedError α :=
  let text := text.toList
  match Tagged.variant (Parser.fuelFor text) (Parser.nestingLimit - 1) tag kind variants text with
  | .error halt => .error (halt.inText text)
  | .ok (variant, content, rest) =>
    match variant.content content with
    | .error e => .error (.badContent e)
    | .ok value =>
      match Parser.skip rest with
      | [] => .ok value
      | rest => .error (.notJson ((Stop.next .trailingCharacters rest).inText text))

end Scenario.Json
