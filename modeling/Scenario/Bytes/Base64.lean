/-!
Base64 with padding.

Three bytes are written as four symbols of six bits; one or two bytes at the end are written as
two or three symbols and padding up to four. Reading accepts exactly what writing produces: no
padding may be missing and the bits of the last symbol that belong to no byte are zero.
-/
namespace Scenario.Base64

inductive Fault where
  | badSymbol (symbol : UInt8) (offset : Nat)
  | badLastSymbol (symbol : UInt8) (offset : Nat)
  | badLength (length : Nat)
  | badPadding
deriving DecidableEq, Repr

def Fault.message : Fault → String
  | .badSymbol symbol offset =>
    "Invalid symbol " ++ toString symbol.toNat ++ ", offset " ++ toString offset ++ "."
  | .badLastSymbol symbol offset =>
    "Invalid last symbol " ++ toString symbol.toNat ++ ", offset " ++ toString offset ++ "."
  | .badLength length => "Invalid input length: " ++ toString length
  | .badPadding => "Invalid padding"

def symbol (n : Nat) : Char :=
  if n < 26 then Char.ofNat ('A'.toNat + n)
  else if n < 52 then Char.ofNat ('a'.toNat + (n - 26))
  else if n < 62 then Char.ofNat ('0'.toNat + (n - 52))
  else if n = 62 then '+'
  else '/'

def value? (byte : UInt8) : Option Nat :=
  let n := byte.toNat
  if 65 ≤ n ∧ n ≤ 90 then some (n - 65)
  else if 97 ≤ n ∧ n ≤ 122 then some (n - 97 + 26)
  else if 48 ≤ n ∧ n ≤ 57 then some (n - 48 + 52)
  else if n = 43 then some 62
  else if n = 47 then some 63
  else none

def encode : List UInt8 → List Char
  | [] => []
  | [a] =>
    let n := a.toNat * 0x10000
    [symbol (n / 0x40000), symbol (n / 0x1000 % 64), '=', '=']
  | [a, b] =>
    let n := a.toNat * 0x10000 + b.toNat * 0x100
    [symbol (n / 0x40000), symbol (n / 0x1000 % 64), symbol (n / 0x40 % 64), '=']
  | a :: b :: c :: rest =>
    let n := a.toNat * 0x10000 + b.toNat * 0x100 + c.toNat
    symbol (n / 0x40000) :: symbol (n / 0x1000 % 64) :: symbol (n / 0x40 % 64)
      :: symbol (n % 64) :: encode rest

def pad : UInt8 := 61

def values (offset : Nat) : List UInt8 → Except Fault (List Nat)
  | [] => .ok []
  | byte :: rest =>
    match value? byte with
    | none => .error (.badSymbol byte offset)
    | some v => (values (offset + 1) rest).map (v :: ·)

def bytesOf (a b c d : Nat) : List UInt8 :=
  let n := a * 0x40000 + b * 0x1000 + c * 0x40 + d
  [UInt8.ofNat (n / 0x10000), UInt8.ofNat (n / 0x100), UInt8.ofNat n]

/-- Splits the last group of at most four bytes, which begins at `start`, into symbols and
padding. Padding may begin behind two symbols, and no symbol may follow it. -/
def lastGroup (start position : Nat) (firstPad : Option Nat) :
    List UInt8 → Except Fault (List Nat × Nat)
  | [] => .ok ([], 0)
  | byte :: rest =>
    if byte = pad then
      if position < 2 then .error (.badSymbol byte (start + position))
      else
        (lastGroup start (position + 1) (firstPad.or (some position)) rest).map
          fun (symbols, pads) => (symbols, pads + 1)
    else
      match firstPad with
      | some first => .error (.badSymbol pad (start + first))
      | none =>
        match value? byte with
        | none => .error (.badSymbol byte (start + position))
        | some v =>
          (lastGroup start (position + 1) none rest).map
            fun (symbols, pads) => (v :: symbols, pads)

/-- The bytes of the last group; `group` is empty only when the whole text is. -/
def finish (start : Nat) (group : List UInt8) : Except Fault (List UInt8) := do
  let (symbols, pads) ← lastGroup start 0 none group
  let unused (offset : Nat) : Fault := .badLastSymbol (group.getD offset 0) (start + offset)
  match symbols with
  | [] => if group.isEmpty then .ok [] else .error (.badLength start)
  | [_] => .error (.badLength (start + 1))
  | [a, b] =>
    if pads ≠ 2 then .error .badPadding
    else if b % 16 ≠ 0 then .error (unused 1)
    else .ok ((bytesOf a b 0 0).take 1)
  | [a, b, c] =>
    if pads ≠ 1 then .error .badPadding
    else if c % 4 ≠ 0 then .error (unused 2)
    else .ok ((bytesOf a b c 0).take 2)
  | a :: b :: c :: d :: _ => if pads ≠ 0 then .error .badPadding else .ok (bytesOf a b c d)

/-- The bytes of a text that begins at an offset; every group but the last is four symbols. -/
def groups (offset : Nat) : List UInt8 → Except Fault (List UInt8)
  | a :: b :: c :: d :: e :: rest => do
    let v ← values offset [a, b, c, d]
    let later ← groups (offset + 4) (e :: rest)
    match v with
    | [a, b, c, d] => .ok (bytesOf a b c d ++ later)
    | _ => .ok later
  | group => finish offset group

/-- The bytes that a text writes. A byte left over behind the last group is looked at first. -/
def decode (text : List UInt8) : Except Fault (List UInt8) :=
  let last := text.getLastD pad
  if text.length % 4 = 1 ∧ last ≠ pad ∧ value? last = none then
    .error (.badSymbol last (text.length - 1))
  else groups 0 text

end Scenario.Base64
