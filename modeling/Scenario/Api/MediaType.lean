import Scenario.Text.Split
/-!
Media types.

A media type is `TYPE/SUBTYPE`, with parameters behind semicolons. The part of a subtype behind its
last plus sign is its suffix. A body is JSON if its type is `application` and its subtype or its
suffix is `json`, in letters of either case.
-/
namespace Scenario.Api

/-- A character of a type, a subtype or a parameter. -/
def isTokenChar (c : Char) : Bool :=
  c.isAlphanum || "!#$%&'*+-.^_`|~".toList.contains c

def isQuotedChar (c : Char) : Bool := 0x20 ≤ c.toNat && c.toNat < 0x7F

def closingQuote? : List Char → Option (List Char)
  | [] => none
  | c :: rest =>
    if c = '"' then some rest else if isQuotedChar c then closingQuote? rest else none

/-- The text behind a quoted value whose opening quote has been read. The value is not empty, so
its first character does not close it. -/
def quotedEnd? : List Char → Option (List Char)
  | [] => none
  | c :: rest => if isQuotedChar c then closingQuote? rest else none

def skipSpaces (text : List Char) : List Char := text.dropWhile (· == ' ')

/-- Whether a text is one parameter after the other; `fuel` bounds their number. -/
def areParameters : (fuel : Nat) → List Char → Bool
  | 0, _ => false
  | fuel + 1, text =>
    match skipSpaces text with
    | [] => true
    | text =>
      let (name, rest) := text.span isTokenChar
      if name.isEmpty then false
      else
        match rest with
        | '=' :: '"' :: rest =>
          match (quotedEnd? rest).map skipSpaces with
          | some [] => true
          | some (';' :: rest) => areParameters fuel rest
          | _ => false
        | '=' :: rest =>
          match rest.span isTokenChar with
          | (_, []) => true
          | (_ :: _, ';' :: rest) => areParameters fuel rest
          | _ => false
        | _ => false

/-- The subtype without its suffix, and the suffix. -/
def splitSuffix (subtype : List Char) : List Char × Option (List Char) :=
  let (suffix, rest) := subtype.reverse.span (· != '+')
  match rest with
  | _ :: c :: before => ((c :: before).reverse, some suffix.reverse)
  | _ => (subtype, none)

def isJsonType (mediaType : String) : Bool :=
  let text := mediaType.toList.map Char.toLower
  match Text.splitFirst '/' text with
  | none => false
  | some (type, rest) =>
    let (subtype, rest) := rest.span isTokenChar
    let (name, suffix) := splitSuffix subtype
    let parameters := match rest with
      | [] => true
      | ';' :: rest => areParameters (rest.length + 1) rest
      | _ => false
    type == "application".toList && !subtype.isEmpty && parameters
      && (name == "json".toList || suffix == some "json".toList)

end Scenario.Api
