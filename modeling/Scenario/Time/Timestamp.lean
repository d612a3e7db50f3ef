import Scenario.Text.Blank
import Scenario.Time.Calendar
/-!
Points in time.

A time stamp is written in UTC, with as many places for the fraction of a second as are needed:
none, three, six or nine. It is read with any offset, and a blank may stand for the letter between
date and time. A leap second is the second after the last one of a minute. The date as written and
the date in UTC must both lie in the years from `firstYear` to `lastYear`.
-/
namespace Scenario

/-- Seconds since 1970 and nanoseconds; the nanoseconds of a leap second start at 10^9. -/
structure Timestamp where
  seconds : Int
  nanos : Nat
deriving DecidableEq, Repr

namespace Timestamp

open Calendar (Date)

/-- The time so many milliseconds after 1970 began. -/
def ofMillis (millis : Nat) : Timestamp := ⟨(millis / 1000 : Nat), millis % 1000 * 1000000⟩

section Writing

/-- At least so many digits. -/
def padded (width n : Nat) : String :=
  let digits := Nat.repr n
  String.ofList (List.replicate (width - digits.length) '0') ++ digits

def yearText (year : Int) : String :=
  if 0 ≤ year ∧ year ≤ 9999 then padded 4 year.toNat
  else (if year < 0 then "-" else "+") ++ padded 4 year.natAbs

def fractionText (nanos : Nat) : String :=
  if nanos = 0 then ""
  else if nanos % 1000000 = 0 then "." ++ padded 3 (nanos / 1000000)
  else if nanos % 1000 = 0 then "." ++ padded 6 (nanos / 1000)
  else "." ++ padded 9 nanos

def text (t : Timestamp) : String :=
  let date := Date.ofDays (t.seconds / 86400)
  let second := (t.seconds % 86400).toNat
  yearText date.year ++ "-" ++ padded 2 date.month ++ "-" ++ padded 2 date.day
    ++ "T" ++ padded 2 (second / 3600) ++ ":" ++ padded 2 (second / 60 % 60)
    ++ ":" ++ padded 2 (second % 60 + t.nanos / 1000000000)
    ++ fractionText (t.nanos % 1000000000) ++ "Z"

end Writing

section Reading

inductive Fault where
  | outOfRange
  | invalid
  | tooShort
  | tooLong
  | impossible
deriving DecidableEq, Repr

def Fault.message : Fault → String
  | .outOfRange => "input is out of range"
  | .invalid => "input contains invalid characters"
  | .tooShort => "premature end of input"
  | .tooLong => "trailing input"
  | .impossible => "no possible date and time matching input"

def digitValue (c : Char) : Nat := c.toNat - '0'.toNat

def largestNumber : Nat := 9223372036854775807

/-- A number of at least one and at most so many digits. -/
def number (most : Nat) (text : List Char) : Except Fault (Nat × List Char) :=
  match text with
  | [] => .error .tooShort
  | c :: _ =>
    if c.isDigit then
      let digits := (text.take most).takeWhile Char.isDigit
      let n := digits.foldl (fun n c => n * 10 + digitValue c) 0
      if n ≤ largestNumber then .ok (n, text.drop digits.length) else .error .outOfRange
    else .error .invalid

/-- A number of a field, with blanks before it, between two bounds. -/
def fieldNumber (least greatest : Nat) (text : List Char) : Except Fault (Nat × List Char) := do
  let (n, rest) ← number 2 (Text.trimStart text)
  if least ≤ n ∧ n ≤ greatest then return (n, rest) else .error .outOfRange

def year (text : List Char) : Except Fault (Int × List Char) := do
  let (n, rest) ← (match Text.trimStart text with
    | '-' :: rest => do
      let (n, rest) ← number rest.length rest
      return (-(n : Int), rest)
    | '+' :: rest => do
      let (n, rest) ← number rest.length rest
      return ((n : Int), rest)
    | text => do
      let (n, rest) ← number 4 text
      return ((n : Int), rest) : Except Fault (Int × List Char))
  if -2147483648 ≤ n ∧ n < 2147483648 then return (n, rest) else .error .outOfRange

/-- A character that must stand next, with blanks before it. -/
def mark (c : Char) (text : List Char) : Except Fault (List Char) :=
  match Text.trimStart text with
  | [] => .error .tooShort
  | d :: rest => if d = c then .ok rest else .error .invalid

/-- The fraction of a second in nanoseconds; places after the ninth are dropped. -/
def fraction : List Char → Except Fault (Nat × List Char)
  | '.' :: text => do
    let (n, rest) ← number 9 text
    return (n * Nat.pow 10 (9 - (text.length - rest.length)), rest.dropWhile Char.isDigit)
  | text => .ok (0, text)

/-- Two digits as they stand; a text is too short for them if it has fewer than two bytes. -/
def twoDigits : List Char → Except Fault (Nat × List Char)
  | [] => .error .tooShort
  | [a] => .error (if a.utf8Size < 2 then .tooShort else .invalid)
  | a :: b :: rest =>
    if a.isDigit && b.isDigit then .ok (digitValue a * 10 + digitValue b, rest)
    else .error .invalid

/-- The hours and minutes of an offset, in seconds. -/
def offsetSize (text : List Char) : Except Fault (Nat × List Char) := do
  let (hours, rest) ← twoDigits text
  let (minutes, rest) ← twoDigits (rest.dropWhile fun c => c == ':' || Text.isBlank c)
  if minutes ≤ 59 then return (hours * 3600 + minutes * 60, rest) else .error .outOfRange

def offset (text : List Char) : Except Fault (Int × List Char) :=
  if String.ofList ((text.take 3).map Char.toLower) = "utc" then .ok (0, text.drop 3)
  else
    match text with
    | [] => .error .tooShort
    | c :: rest =>
      if c = 'Z' ∨ c = 'z' then .ok (0, rest)
      else if c = '+' then (offsetSize rest).map fun (n, rest) => ((n : Int), rest)
      else if c = '-' ∨ c = '−' then (offsetSize rest).map fun (n, rest) => (-(n : Int), rest)
      else .error .invalid

def firstYear : Int := -262143

def lastYear : Int := 262142

/-- Whether a time in UTC lies in the years that a time stamp may lie in. -/
def inYears (seconds : Int) : Bool :=
  (Date.mk firstYear 1 1).toDays * 86400 ≤ seconds
    && seconds < (Date.mk (lastYear + 1) 1 1).toDays * 86400

def ofText (text : String) : Except Fault Timestamp := do
  let (year, rest) ← year text.toList
  let rest ← mark '-' rest
  let (month, rest) ← fieldNumber 1 12 rest
  let rest ← mark '-' rest
  let (day, rest) ← fieldNumber 1 31 rest
  let rest ← (match rest with
    | [] => .error .tooShort
    | c :: rest => if c = 'T' ∨ c = 't' ∨ c = ' ' then .ok rest else .error .invalid
    : Except Fault (List Char))
  let (hour, rest) ← fieldNumber 0 23 rest
  let rest ← mark ':' rest
  let (minute, rest) ← fieldNumber 0 59 rest
  let rest ← mark ':' rest
  let (second, rest) ← fieldNumber 0 60 rest
  let (nanos, rest) ← fraction rest
  let (offset, rest) ← offset (Text.trimStart rest)
  if !(Text.trimStart rest).isEmpty then .error .tooLong
  else
    let date : Date := ⟨year, month, day⟩
    if !date.isValid || lastYear < year || year < firstYear || 86400 ≤ offset.natAbs then
      .error .outOfRange
    else
      let leap := second = 60
      let seconds := date.toDays * 86400 + hour * 3600 + minute * 60
        + (if leap then 59 else second) - offset
      if inYears seconds then return ⟨seconds, if leap then nanos + 1000000000 else nanos⟩
      else .error .impossible

end Reading

end Timestamp

end Scenario
