/-!
Where and why a text is not JSON.

A place is a line and a column. Lines count from one and end after a line feed; the column is the
number of bytes of the line that have been read. A reader that has read the line feed itself
stands at column zero of the next line.
-/
namespace Scenario.Json

inductive Fault where
  | endInValue
  | endInList
  | endInObject
  | endInString
  | valueExpected
  | identExpected
  | colonExpected
  | listCommaExpected
  | objectCommaExpected
  | keyNotString
  | trailingComma
  | trailingCharacters
  | invalidNumber
  | outOfRange
  | invalidEscape
  | controlCharacter
  | loneSurrogate
  | unfinishedSurrogate
  | tooDeep
deriving DecidableEq, Repr

def Fault.text : Fault → String
  | .endInValue => "EOF while parsing a value"
  | .endInList => "EOF while parsing a list"
  | .endInObject => "EOF while parsing an object"
  | .endInString => "EOF while parsing a string"
  | .valueExpected => "expected value"
  | .identExpected => "expected ident"
  | .colonExpected => "expected `:`"
  | .listCommaExpected => "expected `,` or `]`"
  | .objectCommaExpected => "expected `,` or `\x7d`"
  | .keyNotString => "key must be a string"
  | .trailingComma => "trailing comma"
  | .trailingCharacters => "trailing characters"
  | .invalidNumber => "invalid number"
  | .outOfRange => "number out of range"
  | .invalidEscape => "invalid escape"
  | .controlCharacter => "control character (\\u0000-\\u001F) found while parsing a string"
  | .loneSurrogate => "lone leading surrogate in hex escape"
  | .unfinishedSurrogate => "unexpected end of hex escape"
  | .tooDeep => "recursion limit exceeded"

structure Place where
  line : Nat
  column : Nat
deriving DecidableEq, Repr

def byteCount (text : List Char) : Nat := text.foldr (fun c count => c.utf8Size + count) 0

/-- The place that is reached after some bytes of a text. -/
def Place.after (bytes : List UInt8) : Place :=
  bytes.foldl (fun place byte => if byte = 10 then ⟨place.line + 1, 0⟩
    else ⟨place.line, place.column + 1⟩) ⟨1, 0⟩

def Place.text (place : Place) : String :=
  " at line " ++ toString place.line ++ " column " ++ toString place.column

/-- A reader that stopped: the fault, the text in front of which it stood, and how many bytes of
that text it had looked at. -/
structure Stop where
  fault : Fault
  rest : List Char
  looked : Nat
deriving DecidableEq, Repr

namespace Stop

/-- Stopped at the next byte, or at the end of the text. -/
def next (fault : Fault) (rest : List Char) : Stop :=
  ⟨fault, rest, if rest.isEmpty then 0 else 1⟩

/-- Stopped behind the last byte that was read. -/
def behind (fault : Fault) (rest : List Char) : Stop := ⟨fault, rest, 0⟩

end Stop

/-- The place in `text` at which a reader stands that has `rest` before it and has looked at some
bytes of it. -/
def placeIn (text rest : List Char) (looked : Nat) : Place :=
  let bytes := (String.ofList text).toUTF8.toList
  Place.after (bytes.take (byteCount text - byteCount rest + looked))

structure SyntaxError where
  fault : Fault
  place : Place
deriving DecidableEq, Repr

def SyntaxError.message (e : SyntaxError) : String := e.fault.text ++ e.place.text

def Stop.inText (stop : Stop) (text : List Char) : SyntaxError :=
  ⟨stop.fault, placeIn text stop.rest stop.looked⟩

end Scenario.Json
