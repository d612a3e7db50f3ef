import Scenario.Text.Blank
/-!
Templates.

A token of a template is `${path}`, with blanks allowed around the path; a path holds neither
blanks nor a closing brace. A template is cut from left to right into tokens and the characters
between them, and a token is never looked for inside another one.
-/
namespace Scenario.Template

def inPath (c : Char) : Bool := c != '}' && !Text.isBlank c

/-- The path of the token at the front of a text, and the text behind the token. -/
def tokenAt : List Char → Option (List Char × List Char)
  | '$' :: '{' :: rest =>
    let (path, behind) := (Text.trimStart rest).span inPath
    match path, Text.trimStart behind with
    | [], _ => none
    | c :: path, '}' :: behind => some (c :: path, behind)
    | _, _ => none
  | _ => none

/-- A character that stands for itself, or a token with its path and the way it is written. -/
inductive Piece where
  | char (c : Char)
  | token (path written : List Char)
deriving DecidableEq, Repr

/-- The pieces of a text of which so many characters at the front belong to a token already. -/
def piecesFrom : Nat → List Char → List Piece
  | _, [] => []
  | skip + 1, _ :: rest => piecesFrom skip rest
  | 0, c :: rest =>
    match tokenAt (c :: rest) with
    | some (path, behind) =>
      let length := rest.length + 1 - behind.length
      .token path ((c :: rest).take length) :: piecesFrom (length - 1) rest
    | none => .char c :: piecesFrom 0 rest

def pieces (text : List Char) : List Piece := piecesFrom 0 text

/-- The text of a piece; a token that does not resolve stays as it is written. -/
def Piece.render (resolve : List Char → Option (List Char)) : Piece → List Char
  | .char c => [c]
  | .token path written => (resolve path).getD written

/-- The template with every token that resolves replaced. -/
def render (resolve : List Char → Option (List Char)) (text : List Char) : List Char :=
  (pieces text).flatMap (·.render resolve)

/-- The path of a text that is one token and blanks around it. -/
def lonePath? (text : List Char) : Option (List Char) :=
  match tokenAt (Text.trimStart text) with
  | some (path, behind) => if behind.all Text.isBlank then some path else none
  | none => none

end Scenario.Template
