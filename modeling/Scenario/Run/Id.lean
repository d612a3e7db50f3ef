/-!
Ids of runs.

An id is a number of 128 bits. It is written in hexadecimal digits in five groups, and is read in
letters of either case: the digits alone, the groups with hyphens between them, or such groups
between braces or behind a prefix. The number of bytes of a text says which of these it must be.
-/
namespace Scenario

structure RunId where
  number : Fin 340282366920938463463374607431768211456
deriving DecidableEq

namespace RunId

def ofNat (n : Nat) : RunId := ⟨Fin.ofNat 340282366920938463463374607431768211456 n⟩

def groupEnds : List Nat := [8, 12, 16, 20]

/-- The digits with a hyphen behind each group but the last. -/
def hyphenate (digits : List Char) : List Char :=
  digits.zipIdx.flatMap fun (c, position) =>
    if position ∈ groupEnds then ['-', c] else [c]

def text (id : RunId) : String :=
  let digits := Nat.toDigits 16 id.number
  String.ofList (hyphenate (List.replicate (32 - digits.length) '0' ++ digits))

inductive Fault where
  | badCharacter (c : Char) (position : Nat)
  | badLength (length : Nat)
  | groupCount (count : Nat)
  | groupLength (group expected length : Nat)
deriving DecidableEq, Repr

def Fault.message : Fault → String
  | .badCharacter c position =>
    "invalid character: found `" ++ String.singleton c ++ "` at " ++ toString position
  | .badLength length => "invalid length: found " ++ toString length
  | .groupCount count => "invalid group count: expected 5, found " ++ toString count
  | .groupLength group expected length =>
    "invalid group length in group " ++ toString group ++ ": expected " ++ toString expected
      ++ ", found " ++ toString length

def hexValue? (c : Char) : Option Nat :=
  if c.isDigit then some (c.toNat - '0'.toNat)
  else if 'a' ≤ c ∧ c ≤ 'f' then some (c.toNat - 'a'.toNat + 10)
  else if 'A' ≤ c ∧ c ≤ 'F' then some (c.toNat - 'A'.toNat + 10)
  else none

def ofDigits (digits : List Char) : Option RunId :=
  if digits.length = 32 then
    (digits.foldlM (fun n c => (hexValue? c).map (n * 16 + ·)) 0).map ofNat
  else none

def dropHyphens (text : List Char) : Option (List Char) :=
  if text.length = 36 ∧ [8, 13, 18, 23].all (fun i => text[i]? = some '-') then
    some (text.zipIdx.filterMap fun (c, i) => if i ∈ [8, 13, 18, 23] then none else some c)
  else none

def braced? : List Char → Option (List Char)
  | '{' :: rest => if rest.getLast? = some '}' then some rest.dropLast else none
  | _ => none

def urn : List Char := "urn:uuid:".toList

/-- The text behind the prefix of an id, which may be in letters of either case. -/
def afterUrn? (text : List Char) : Option (List Char) :=
  if (text.take urn.length).map Char.toLower = urn then some (text.drop urn.length) else none

/-- The five groups that a text with so many bytes must hold. -/
def groups? (size : Nat) (text : List Char) : Option (List Char) :=
  if size = 36 then some text
  else if size = 38 then braced? text
  else if size = 45 then afterUrn? text
  else none

/-- Why digits are no id, with the number of characters before them in the text: a character that
cannot be in one, or digits in the wrong number. -/
def faultIn (digits : List Char) (before size : Nat) (bare : Bool) : Fault :=
  match digits.zipIdx.find? fun (c, _) => c ≠ '-' && (hexValue? c).isNone with
  | some (c, position) => .badCharacter c (position + before)
  | none =>
    let hyphens := (digits.zipIdx.filter fun (c, _) => c = '-').map (·.2)
    match hyphens with
    | [] => if bare then .badLength size else .groupCount 1
    | [a, b, c, d] =>
      if a ≠ 8 then .groupLength 0 8 a
      else if b ≠ 13 then .groupLength 1 4 (b - 9)
      else if c ≠ 18 then .groupLength 2 4 (c - 14)
      else if d ≠ 23 then .groupLength 3 4 (d - 19)
      else .groupLength 4 12 (size - 24)
    | several => .groupCount (several.length + 1)

/-- The greatest number of bytes of a text that is looked into. -/
def longestSize : Nat := 45

/-- Why a text of this size is no id, if its size does not make it five groups. -/
def faultOf (size : Nat) (text : List Char) : Fault :=
  if longestSize < size then .badLength size
  else
    match afterUrn? text, braced? text with
    | some digits, _ => faultIn digits urn.length size false
    | none, some digits => faultIn digits 1 size false
    | none, none => faultIn text 0 size true

def ofText (text : String) : Except Fault RunId :=
  let size := text.utf8ByteSize
  match groups? size text.toList with
  | some groups =>
    match (dropHyphens groups).bind ofDigits with
    | some id => .ok id
    | none => .error (faultIn groups 0 36 false)
  | none =>
    match ofDigits text.toList with
    | some id => .ok id
    | none => .error (faultOf size text.toList)

end RunId

end Scenario
