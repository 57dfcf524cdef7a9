import Stencil.Text.Hex
import Stencil.Text.Printable
import Stencil.Text.Units

/-!
Escapes inside the string literals of a template. An escape that is not known stands for itself,
backslash included; a backslash before a character outside ASCII stands before the escaped form of
that character.
-/
namespace Stencil.Template

open Text

inductive EscapeError where
  | truncatedByte
  | truncatedShort
  | truncatedLong
  | beyondUnicode
  | malformedName
  | unknownName
  deriving DecidableEq, Repr

def EscapeError.message : EscapeError → String
  | .truncatedByte => "truncated \\xXX escape"
  | .truncatedShort => "truncated \\uXXXX escape"
  | .truncatedLong => "truncated \\UXXXXXXXX escape"
  | .beyondUnicode => "illegal Unicode character"
  | .malformedName => "malformed \\N character escape"
  | .unknownName => "unknown Unicode character name"

/-- The units of a code point; surrogates stand for themselves. -/
def unitsOfCode (n : Nat) : Units :=
  if n < 0x10000 then [UInt16.ofNat n] else unitsOfChar (Char.ofNat n)

/-- A code point of `width` hexadecimal digits after the letter of its escape. -/
def hexEscape (width : Nat) (error : EscapeError) (s : List Char) :
    Except EscapeError (Units × Nat) :=
  match hexNumber? width s with
  | none => .error error
  | some n => if n < 0x110000 then .ok (unitsOfCode n, width + 1) else .error .beyondUnicode

def isOctal (c : Char) : Bool := '0' ≤ c && c ≤ '7'

/-- The escaped form of a character outside ASCII, without its backslash. -/
def escapedForm (c : Char) : List Char :=
  let n := c.toNat
  if n < 0x100 then 'x' :: hexPadded 2 n
  else if n < 0x10000 then 'u' :: hexPadded 4 n
  else 'U' :: hexPadded 8 n

def asciiForm (c : Char) : List Char := if c.toNat < 0x80 then [c] else '\\' :: escapedForm c

/-- The names of characters: what a name stands for, if it is known. -/
abbrev CharacterNames := List Char → Option Char

/-- A named character. Its name is looked up as ASCII text. -/
def namedEscape (names : CharacterNames) : List Char → Except EscapeError (Units × Nat)
  | '{' :: rest =>
    let name := rest.takeWhile fun c => c != '}'
    if name.isEmpty || name.length == rest.length then .error .malformedName
    else
      match names (name.flatMap asciiForm) with
      | some c => .ok (unitsOfChar c, name.length + 3)
      | none => .error .unknownName
  | _ => .error .malformedName

/-- What follows a backslash: the units it stands for and how many characters it takes. -/
def readEscape (names : CharacterNames) : List Char → Except EscapeError (Units × Nat)
  | [] => .ok (unitsOfChar '\\', 0)
  | c :: rest =>
    match c with
    | '\n' => .ok ([], 1)
    | '\\' | '\'' | '"' => .ok (unitsOfChar c, 1)
    | 'a' => .ok ([7], 1)
    | 'b' => .ok ([8], 1)
    | 't' => .ok ([9], 1)
    | 'n' => .ok ([10], 1)
    | 'v' => .ok ([11], 1)
    | 'f' => .ok ([12], 1)
    | 'r' => .ok ([13], 1)
    | 'x' => hexEscape 2 .truncatedByte rest
    | 'u' => hexEscape 4 .truncatedShort rest
    | 'U' => hexEscape 8 .truncatedLong rest
    | 'N' => namedEscape names rest
    | _ =>
      if isOctal c then
        let digits := c :: (rest.take 2).takeWhile isOctal
        .ok ([UInt16.ofNat (digits.foldl (fun n d => n * 8 + (d.toNat - '0'.toNat)) 0)],
          digits.length)
      else if c.toNat < 0x80 then .ok (unitsOfChars ['\\', c], 1)
      else .ok (unitsOfChars (asciiForm c), 1)

/-- The value of the text between the quotes of a literal. -/
def unescape (names : CharacterNames) : List Char → Except EscapeError Units
  | [] => .ok []
  | c :: rest =>
    if c = '\\' then
      match readEscape names rest with
      | .error e => .error e
      | .ok (value, length) => (unescape names (rest.drop length)).map (value ++ ·)
    else (unescape names rest).map (unitsOfChar c ++ ·)
termination_by s => s.length
decreasing_by
  · simp only [List.length_drop, List.length_cons]; omega
  · simp

end Stencil.Template
