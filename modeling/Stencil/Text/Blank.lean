import Stencil.Text.CodeRanges

/-!
White space of all scripts: the characters that separate words, end lines or count as spacing,
with the four information separators of ASCII.
-/
namespace Stencil.Text

def blankRanges : CodeRanges :=
  [(9, 13), (28, 32), (133, 133), (160, 160), (5760, 5760), (8192, 8202), (8232, 8233),
   (8239, 8239), (8287, 8287), (12288, 12288)]

/-- Spacing in any script, the zero width space not included. -/
def isBlank (c : Char) : Bool := blankRanges.contains c.toNat

/-- A text that holds something, and spacing only. -/
def allBlank (s : List Char) : Bool := !s.isEmpty && s.all isBlank

/-- The text without the white space at its end. -/
def trimRight (s : List Char) : List Char := (s.reverse.dropWhile isBlank).reverse

/-- The length of the white space that a text begins with. -/
def blankLength (s : List Char) : Nat := (s.takeWhile isBlank).length

end Stencil.Text
