import Stencil.Yaml.Failure

/-!
The text of a document, each character with the place where it stands. The last one is an end mark,
so there is always a place to speak of.
-/
namespace Stencil.Yaml

structure Spot where
  char : Char
  index : Nat
  line : Nat
  column : Nat
  deriving DecidableEq, Repr

abbrev Rest := List Spot

def endMark : Char := '\x00'

/-- What a line break stands for: itself if it is a separator of lines or paragraphs. -/
def breakOf? (c : Char) : Option Char :=
  if c = '\n' ∨ c = '\x85' then some '\n'
  else if c = '\u2028' ∨ c = '\u2029' then some c
  else none

def isBreak (c : Char) : Bool := (breakOf? c).isSome

def endsLine (c : Char) : Bool := c == endMark || isBreak c

def isSpacing (c : Char) : Bool := c == ' ' || c == '\t'

/-- What separates words: spacing, and the end of a line or of the document. -/
def isGap (c : Char) : Bool := isSpacing c || endsLine c

def byteOrderMark : Char := '\uFEFF'

def placeFrom (index line column : Nat) : List Char → Rest
  | [] => [⟨endMark, index, line, column⟩]
  | c :: rest =>
    ⟨c, index, line, column⟩ ::
      (if isBreak c then placeFrom (index + 1) (line + 1) 0 rest
      else if c = byteOrderMark then placeFrom (index + 1) line column rest
      else placeFrom (index + 1) line (column + 1) rest)

def place (text : List Char) : Rest := placeFrom 0 0 0 text

def spot : Rest → Spot
  | [] => ⟨endMark, 0, 0, 0⟩
  | s :: _ => s

def peek (r : Rest) : Char := (spot r).char

def columnOf (r : Rest) : Nat := (spot r).column

def chars (r : Rest) : List Char := r.map Spot.char

def skipWhile (p : Char → Bool) (r : Rest) : Rest := r.dropWhile fun s => p s.char

def runOf (p : Char → Bool) (r : Rest) : List Char := chars (r.takeWhile fun s => p s.char)

def skipSpaces (r : Rest) : Rest := skipWhile (· == ' ') r

def skipComment (r : Rest) : Rest := if peek r == '#' then skipWhile (!endsLine ·) r else r

/-- Three equal signs and a gap, the mark between documents. -/
def atMark (sign : Char) : Rest → Bool
  | a :: b :: c :: rest => a.char == sign && b.char == sign && c.char == sign && isGap (peek rest)
  | _ => false

def atDocumentMark (r : Rest) : Bool := (atMark '-' r) || (atMark '.' r)

/-- The next line, if nothing but a comment is left of this one. -/
def nextLine (r : Rest) : Except Failure Rest :=
  let r := skipComment (skipSpaces r)
  if peek r == endMark then .ok r
  else if isBreak (peek r) then .ok (r.drop 1)
  else .error .malformed

end Stencil.Yaml
