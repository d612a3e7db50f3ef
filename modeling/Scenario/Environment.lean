import Scenario.Json.Parser
import Scenario.Text.Split
import Scenario.Variables
/-!
Environments.

An environment is a text of lines `KEY=VALUE`. Blank lines, lines that begin with `#` and lines
without a key are skipped. A value between two equal quotes is the text between them; any other
value that is JSON but no JSON string is that JSON value, and the rest is text.
-/
namespace Scenario.Environment

open Json (Value)

/-- The text between two equal quotes. -/
def unquote (quote : Char) (raw : List Char) : Option (List Char) :=
  match raw with
  | first :: second :: rest =>
    if first = quote ∧ (second :: rest).getLast? = some quote then some (second :: rest).dropLast
    else none
  | _ => none

def readValue (raw : List Char) : Value :=
  match unquote '"' raw with
  | some inner => .string (String.ofList inner)
  | none =>
    match unquote '\'' raw with
    | some inner => .string (String.ofList inner)
    | none =>
      match Json.parse (String.ofList raw) with
      | .error _ | .ok (.string _) => .string (String.ofList raw)
      | .ok v => v

def exportWord : List Char := "export ".toList

def readLine (line : List Char) : Option (String × Value) :=
  match Text.trimChars line with
  | [] => none
  | '#' :: _ => none
  | line =>
    match Text.splitFirst '=' ((exportWord.isPrefixOf? line).getD line) with
    | none => none
    | some (key, raw) =>
      match Text.trimChars key with
      | [] => none
      | key => some (String.ofList key, readValue (Text.trimChars raw))

/-- The variables that a text sets; of two lines with one key the later wins. -/
def read (text : String) : Variables := .ofList ((Text.lines text.toList).filterMap readLine)

end Scenario.Environment
