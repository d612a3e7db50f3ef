/-!
White space.

Names, operands and templates are trimmed at, and placeholders are padded with, the
characters that have the property White_Space. Every other character is text.
-/
namespace Scenario.Text

/-- White_Space: the ASCII blanks, next line, the spaces of the general punctuation
block, the line and paragraph separators, and three spaces of single scripts. -/
def isBlank (c : Char) : Bool :=
  let code := c.toNat
  (9 ≤ code && code ≤ 13) || code == 0x20 || code == 0x85 || code == 0xA0 || code == 0x1680 ||
    (0x2000 ≤ code && code ≤ 0x200A) || code == 0x2028 || code == 0x2029 || code == 0x202F ||
    code == 0x205F || code == 0x3000

def trimStart (text : List Char) : List Char := text.dropWhile isBlank

def trimEnd (text : List Char) : List Char := (text.reverse.dropWhile isBlank).reverse

/-- The text without its leading and trailing blanks. -/
def trimChars (text : List Char) : List Char := trimEnd (trimStart text)

/-- Nothing would be left after trimming. -/
def isBlankText (text : String) : Bool := text.toList.all isBlank

end Scenario.Text
