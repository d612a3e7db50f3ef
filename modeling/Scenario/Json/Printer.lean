import Scenario.Json.Value
/-!
Writing JSON.

`compact` puts no blanks between tokens. `pretty` puts every item and every field on a line of its
own, indented by four spaces for each enclosing array or object; empty ones stay on one line. In
strings the quote, the backslash and the control characters are escaped and nothing else is.
-/
namespace Scenario.Json

def hexDigit (n : Nat) : Char :=
  if n < 10 then Char.ofNat ('0'.toNat + n) else Char.ofNat ('a'.toNat + (n - 10))

def escapeChar (c : Char) : List Char :=
  if c = '"' then ['\\', '"']
  else if c = '\\' then ['\\', '\\']
  else if c = '\x08' then ['\\', 'b']
  else if c = '\x0c' then ['\\', 'f']
  else if c = '\n' then ['\\', 'n']
  else if c = '\r' then ['\\', 'r']
  else if c = '\t' then ['\\', 't']
  else if c.toNat < 0x20 then
    ['\\', 'u', '0', '0', hexDigit (c.toNat / 16), hexDigit (c.toNat % 16)]
  else [c]

def quoted (s : String) : List Char := '"' :: s.toList.flatMap escapeChar ++ ['"']

namespace Value

mutual
def compactChars : Value → List Char
  | .null => "null".toList
  | .bool true => "true".toList
  | .bool false => "false".toList
  | .number n => n.text.toList
  | .string s => quoted s
  | .array items => '[' :: compactItems items ++ [']']
  | .object fields => '{' :: compactFields fields ++ ['}']

def compactItems : List Value → List Char
  | [] => []
  | [item] => compactChars item
  | item :: items => compactChars item ++ ',' :: compactItems items

def compactFields : List (String × Value) → List Char
  | [] => []
  | [(key, value)] => quoted key ++ ':' :: compactChars value
  | (key, value) :: fields => quoted key ++ ':' :: compactChars value ++ ',' :: compactFields fields
end

/-- The text of a value on one line without blanks. -/
def compact (v : Value) : String := String.ofList v.compactChars

/-- A new line, indented for so many enclosing arrays and objects. -/
def newLine (level : Nat) : List Char := '\n' :: List.replicate (4 * level) ' '

mutual
def prettyChars (level : Nat) : Value → List Char
  | .array [] => ['[', ']']
  | .array (item :: items) =>
    '[' :: prettyItems (level + 1) (item :: items) ++ newLine level ++ [']']
  | .object [] => ['{', '}']
  | .object (field :: fields) =>
    '{' :: prettyFields (level + 1) (field :: fields) ++ newLine level ++ ['}']
  | .null => "null".toList
  | .bool true => "true".toList
  | .bool false => "false".toList
  | .number n => n.text.toList
  | .string s => quoted s

def prettyItems (level : Nat) : List Value → List Char
  | [] => []
  | [item] => newLine level ++ prettyChars level item
  | item :: items => newLine level ++ prettyChars level item ++ ',' :: prettyItems level items

def prettyFields (level : Nat) : List (String × Value) → List Char
  | [] => []
  | [(key, value)] => newLine level ++ quoted key ++ ':' :: ' ' :: prettyChars level value
  | (key, value) :: fields =>
    newLine level ++ quoted key ++ ':' :: ' ' :: prettyChars level value
      ++ ',' :: prettyFields level fields
end

def pretty (v : Value) : String := String.ofList (v.prettyChars 0)

/-- A value inside a text: strings stand without quotes and null is nothing. -/
def inline : Value → String
  | .string s => s
  | .null => ""
  | v => v.compact

end Value

end Scenario.Json
