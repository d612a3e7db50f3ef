import Scenario.Json.Value
import Scenario.Json.Fault
/-!
Reading JSON.

Every reader returns what it read together with the text behind it, or the stop at which it gave
up. `document` reads one value that fills the text, with the fields of each object as they stand;
`parse` puts the fields in order and lets the last of several with one key win. At most 127
arrays and objects may enclose each other.
-/
namespace Scenario.Json.Parser

open Scenario.Number

def isSpace (c : Char) : Bool := c == ' ' || c == '\n' || c == '\t' || c == '\r'

def skip (text : List Char) : List Char := text.dropWhile isSpace

/-- The rest of a word whose first letter has been read. -/
def word (letters : List Char) (value : Value) : List Char → Except Stop (Value × List Char)
  | [] => if letters.isEmpty then .ok (value, []) else .error (.behind .endInValue [])
  | c :: rest =>
    match letters with
    | [] => .ok (value, c :: rest)
    | letter :: letters =>
      if c = letter then word letters value rest else .error (.next .identExpected (c :: rest))

section Numbers

def digitValue (c : Char) : Nat := c.toNat - '0'.toNat

/-- The digits at the front of a text, and the rest. -/
def digits (text : List Char) : List Char × List Char := text.span Char.isDigit

def largestSignificand : Nat := 18446744073709551615

/-- Appends digits to a significand while it fits into 64 bits, and counts those that fitted. -/
def gather (significand : Nat) : List Char → Nat × Nat
  | [] => (significand, 0)
  | c :: rest =>
    let larger := significand * 10 + digitValue c
    if larger ≤ largestSignificand then
      let (final, taken) := gather larger rest
      (final, taken + 1)
    else (significand, 0)

/-- Divides by ten to the power 308 so many times, and then by a smaller power; zero stays. -/
def divideByTens (value : Double) (places : Nat) : Nat → Double
  | 0 => (value.div (.tenTo places)).getD .zero
  | steps + 1 =>
    if value.isZero then value
    else divideByTens ((value.div (.tenTo 308)).getD .zero) places steps

/-- `significand * 10 ^ exponent`: the significand is rounded to a double first and the power of
ten is a double too, so the result may differ from the nearest double. -/
def scaled (negative : Bool) (significand : Nat) (exponent : Int) : Option Double := do
  let value ← Double.ofRatio false significand 1
  let value ←
    if exponent < 0 then
      some (divideByTens value (exponent.natAbs % 308) (exponent.natAbs / 308))
    else if exponent.natAbs ≤ 308 then value.mul (.tenTo exponent.natAbs)
    else if value.isZero then some value
    else none
  return if negative then value.negate else value

/-- A double that has been read, if it is in range. -/
def inRange (rest : List Char) : Option Double → Except Stop (Number × List Char)
  | some value => .ok (.double value, rest)
  | none => .error (.behind .outOfRange rest)

def scaledAt (negative : Bool) (significand : Nat) (exponent : Int) (rest : List Char) :
    Except Stop (Number × List Char) :=
  inRange rest (scaled negative significand exponent)

def largestExponent : Nat := 2147483647

/-- Appends digits to an exponent; if it grows too large, the text behind the digit at which that
happened. -/
def exponentDigits (exponent : Nat) : List Char → Except (List Char) Nat
  | [] => .ok exponent
  | c :: rest =>
    let larger := exponent * 10 + digitValue c
    if larger ≤ largestExponent then exponentDigits larger rest else .error rest

/-- The digits of an exponent, behind its sign. -/
def exponentBody (negative : Bool) (significand : Nat) (start : Int) (downward : Bool)
    (text : List Char) : Except Stop (Number × List Char) :=
  match text with
  | [] => .error (.behind .endInValue [])
  | c :: _ =>
    if c.isDigit then
      let (written, rest) := digits text
      match exponentDigits 0 written with
      | .ok exponent =>
        let total := if downward then start - exponent else start + exponent
        scaledAt negative significand total rest
      | .error unread =>
        if significand ≠ 0 ∧ downward = false then .error (.behind .outOfRange (unread ++ rest))
        else .ok (.double (if negative then Double.zero.negate else .zero), rest)
    else .error (.next .invalidNumber text)

def exponentPart (negative : Bool) (significand : Nat) (start : Int) :
    List Char → Except Stop (Number × List Char)
  | '+' :: rest => exponentBody negative significand start false rest
  | '-' :: rest => exponentBody negative significand start true rest
  | text => exponentBody negative significand start false text

def isExponentMark (c : Char) : Bool := c == 'e' || c == 'E'

/-- What follows the digits of a number that is no whole number. -/
def afterDigits (negative : Bool) (significand : Nat) (exponent : Int) :
    List Char → Except Stop (Number × List Char)
  | [] => scaledAt negative significand exponent []
  | c :: rest =>
    if isExponentMark c then exponentPart negative significand exponent rest
    else scaledAt negative significand exponent (c :: rest)

def fractionPart (negative : Bool) (significand : Nat) (exponent : Int) (text : List Char) :
    Except Stop (Number × List Char) :=
  let (written, rest) := digits text
  if written.isEmpty then
    .error (if rest.isEmpty then .next .endInValue rest else .next .invalidNumber rest)
  else
    let (significand, taken) := gather significand written
    afterDigits negative significand (exponent - taken) rest

/-- A whole number stays exact if it is in range; minus zero and numbers out of range are
doubles. -/
def wholeNumber (negative : Bool) (significand : Nat) (rest : List Char) :
    Except Stop (Number × List Char) :=
  let value : Int := if negative then -significand else significand
  if negative = true ∧ significand = 0 then .ok (.double Double.zero.negate, rest)
  else
    match Whole.ofInt? value with
    | some n => .ok (.whole n, rest)
    | none => scaledAt negative significand 0 rest

/-- What follows the digits in front of a point; so many of them did not fit. -/
def afterWhole (negative : Bool) (significand dropped : Nat) :
    List Char → Except Stop (Number × List Char)
  | '.' :: rest => fractionPart negative significand dropped rest
  | rest =>
    if dropped = 0 then
      match rest with
      | c :: later =>
        if isExponentMark c then exponentPart negative significand 0 later
        else wholeNumber negative significand rest
      | [] => wholeNumber negative significand []
    else afterDigits negative significand dropped rest

def unsigned (negative : Bool) (text : List Char) : Except Stop (Number × List Char) :=
  match text with
  | [] => .error (.behind .endInValue [])
  | first :: second =>
    if first.isDigit then
      let (written, rest) := digits text
      if first = '0' ∧ written.length ≠ 1 then .error (.next .invalidNumber second)
      else
        let (significand, taken) := gather 0 written
        afterWhole negative significand (written.length - taken) rest
    else .error (.next .invalidNumber text)

def number (text : List Char) : Except Stop (Value × List Char) := do
  let (n, rest) ←
    match text with
    | '-' :: rest => unsigned true rest
    | text => unsigned false text
  return (.number n, rest)

end Numbers

section Strings

def hexValue (c : Char) : Option Nat :=
  if c.isDigit then some (c.toNat - '0'.toNat)
  else if 'a' ≤ c ∧ c ≤ 'f' then some (c.toNat - 'a'.toNat + 10)
  else if 'A' ≤ c ∧ c ≤ 'F' then some (c.toNat - 'A'.toNat + 10)
  else none

def hexQuad (a b c d : Char) : Option Nat := do
  return (((← hexValue a) * 16 + (← hexValue b)) * 16 + (← hexValue c)) * 16 + (← hexValue d)

/-- Why four hexadecimal digits could not be read: the four bytes are read as a whole before they
are looked at. -/
def hexStop (text : List Char) : Stop :=
  if byteCount text < 4 then .behind .endInString [] else ⟨.invalidEscape, text, 4⟩

/-- The character that a letter stands for behind a backslash. -/
def shortEscape : Char → Option Char
  | '"' => some '"'
  | '\\' => some '\\'
  | '/' => some '/'
  | 'b' => some '\x08'
  | 'f' => some '\x0c'
  | 'n' => some '\n'
  | 'r' => some '\r'
  | 't' => some '\t'
  | _ => none

def isLeading (unit : Nat) : Bool := 0xD800 ≤ unit && unit ≤ 0xDBFF

def isTrailing (unit : Nat) : Bool := 0xDC00 ≤ unit && unit ≤ 0xDFFF

def pairChar (leading trailing : Nat) : Char :=
  Char.ofNat ((leading - 0xD800) * 0x400 + (trailing - 0xDC00) + 0x10000)

/-- Why the text behind a leading surrogate is no trailing one. -/
def pairStop : List Char → Stop
  | [] => .behind .endInString []
  | '\\' :: [] => .behind .endInString []
  | '\\' :: 'u' :: text =>
    match text with
    | a :: b :: c :: d :: rest =>
      match hexQuad a b c d with
      | some _ => .behind .loneSurrogate rest
      | none => hexStop text
    | _ => hexStop text
  | '\\' :: text => .next .unfinishedSurrogate text
  | text => .next .unfinishedSurrogate text

/-- The text up to the closing quote; `read` holds the characters so far, the last one first. -/
def stringBody (read : List Char) : List Char → Except Stop (String × List Char)
  | [] => .error (.behind .endInString [])
  | '"' :: rest => .ok (String.ofList read.reverse, rest)
  | '\\' :: 'u' :: a :: b :: c :: d :: rest =>
    match hexQuad a b c d with
    | none => .error (hexStop (a :: b :: c :: d :: rest))
    | some unit =>
      if isTrailing unit then .error (.behind .loneSurrogate rest)
      else if isLeading unit then
        match rest with
        | '\\' :: 'u' :: e :: f :: g :: h :: rest' =>
          match hexQuad e f g h with
          | some second =>
            if isTrailing second then stringBody (pairChar unit second :: read) rest'
            else .error (.behind .loneSurrogate rest')
          | none => .error (pairStop rest)
        | rest => .error (pairStop rest)
      else stringBody (Char.ofNat unit :: read) rest
  | '\\' :: 'u' :: rest => .error (hexStop rest)
  | '\\' :: c :: rest =>
    match shortEscape c with
    | some escaped => stringBody (escaped :: read) rest
    | none => .error (.next .invalidEscape (c :: rest))
  | ['\\'] => .error (.behind .endInString [])
  | c :: rest =>
    if c.toNat < 0x20 then .error (.next .controlCharacter (c :: rest))
    else stringBody (c :: read) rest

end Strings

def colon (text : List Char) : Except Stop (List Char) :=
  match skip text with
  | ':' :: rest => .ok rest
  | [] => .error (.behind .endInObject [])
  | rest => .error (.next .colonExpected rest)

/-- Whether another field follows, with the text behind the opening quote of its key or behind the
brace of the object. -/
def moreFields (text : List Char) : Except Stop (Bool × List Char) :=
  match skip text with
  | '}' :: rest => .ok (false, rest)
  | [] => .error (.next .endInObject [])
  | ',' :: rest =>
    match skip rest with
    | '"' :: rest => .ok (true, rest)
    | '}' :: rest => .error (.next .trailingComma ('}' :: rest))
    | [] => .error (.next .endInValue [])
    | rest => .error (.next .keyNotString rest)
  | rest => .error (.next .objectCommaExpected rest)

mutual
/-- One value; `depth` more arrays and objects may be opened. -/
def value : (fuel depth : Nat) → List Char → Except Stop (Value × List Char)
  | 0, _, text => .error (.next .tooDeep text)
  | fuel + 1, depth, text =>
    match skip text with
    | [] => .error (.next .endInValue [])
    | 'n' :: rest => word "ull".toList .null rest
    | 't' :: rest => word "rue".toList (.bool true) rest
    | 'f' :: rest => word "alse".toList (.bool false) rest
    | '"' :: rest => do
      let (s, rest) ← stringBody [] rest
      return (.string s, rest)
    | '[' :: rest =>
      match depth with
      | 0 => .error (.next .tooDeep ('[' :: rest))
      | depth + 1 =>
        match skip rest with
        | ']' :: rest => .ok (.array [], rest)
        | [] => .error (.next .endInList [])
        | rest => do
          let (items, rest) ← items fuel depth rest
          return (.array items, rest)
    | '{' :: rest =>
      match depth with
      | 0 => .error (.next .tooDeep ('{' :: rest))
      | depth + 1 =>
        match skip rest with
        | '}' :: rest => .ok (.object [], rest)
        | [] => .error (.next .endInObject [])
        | '"' :: rest => do
          let (fields, rest) ← fields fuel depth rest
          return (.object fields, rest)
        | rest => .error (.next .keyNotString rest)
    | c :: rest =>
      if c.isDigit || c == '-' then number (c :: rest)
      else .error (.next .valueExpected (c :: rest))

/-- The items of an array up to its bracket; there is at least one. -/
def items : (fuel depth : Nat) → List Char → Except Stop (List Value × List Char)
  | 0, _, text => .error (.next .tooDeep text)
  | fuel + 1, depth, text => do
    let (item, rest) ← value fuel depth text
    match skip rest with
    | ']' :: rest => .ok ([item], rest)
    | [] => .error (.next .endInList [])
    | ',' :: rest =>
      match skip rest with
      | ']' :: rest => .error (.next .trailingComma (']' :: rest))
      | [] => .error (.next .endInValue [])
      | rest => do
        let (later, rest) ← items fuel depth rest
        return (item :: later, rest)
    | rest => .error (.next .listCommaExpected rest)

/-- The fields of an object up to its brace; the opening quote of the first key has been read. -/
def fields : (fuel depth : Nat) → List Char → Except Stop (List (String × Value) × List Char)
  | 0, _, text => .error (.next .tooDeep text)
  | fuel + 1, depth, text => do
    let (name, rest) ← stringBody [] text
    let rest ← colon rest
    let (item, rest) ← value fuel depth rest
    let (more, rest) ← moreFields rest
    if more then
      let (later, rest) ← fields fuel depth rest
      return ((name, item) :: later, rest)
    else return ([(name, item)], rest)
end

/-- How many arrays and objects may enclose each other. -/
def nestingLimit : Nat := 127

/-- Enough for every text: a value, and the list that holds it, use up one character each. -/
def fuelFor (text : List Char) : Nat := 2 * text.length + 2

def document (limit : Nat) (text : List Char) : Except Stop Value := do
  let (read, rest) ← value (fuelFor text) limit text
  match skip rest with
  | [] => .ok read
  | rest => .error (.next .trailingCharacters rest)

end Parser

/-- The value that a text writes, with the fields of each object as they stand. -/
def parseAsWritten (text : String) : Except SyntaxError Value :=
  (Parser.document Parser.nestingLimit text.toList).mapError (Stop.inText · text.toList)

def parse (text : String) : Except SyntaxError Value :=
  (parseAsWritten text).map Value.normalize

end Scenario.Json
