import Stencil.Json.Writer
import Stencil.Number.Double
import Stencil.Text.Blank
import Stencil.Text.Hex
import Stencil.Text.Word

/-!
Numbers in texts of all scripts: a sign, digits, and for floating-point numbers a fraction and an
exponent. White space around a number does not matter.
-/
namespace Stencil.Number

open Text

/-- The text without the white space around it. -/
def trimmed (s : List Char) : List Char := trimRight (s.dropWhile isBlank)

def splitSign : List Char → Bool × List Char
  | '-' :: rest => (true, rest)
  | '+' :: rest => (false, rest)
  | s => (false, s)

/-- The value of a digit of any script; letters are digits from ten on. -/
def digitValue? (c : Char) : Option Nat :=
  if isDecimal c then some (decimalValue c) else hexValue? c

/-- The number that digits of a base stand for; none if there is no digit, or something else. -/
def ofDigits? (base : Nat) (digits : List Char) : Option Nat :=
  if digits.isEmpty then none
  else
    digits.foldlM (fun n c =>
      (digitValue? c).bind fun d => if d < base then some (n * base + d) else none) 0

def baseLetter? : Nat → Option Char
  | 2 => some 'b'
  | 8 => some 'o'
  | 16 => some 'x'
  | _ => none

/-- The digits without the mark of their base, which they may have. -/
def dropBase (base : Nat) : List Char → List Char
  | '0' :: letter :: rest =>
    if baseLetter? base == some letter.toLower then rest else '0' :: letter :: rest
  | s => s

/-- Reads a whole number. Decimal numbers of too many digits are not read. -/
def readInteger (base : Nat) (s : List Char) : Option Int :=
  let (negative, digits) := splitSign (trimmed s)
  let digits := dropBase base digits
  if base = 10 ∧ Json.maxDigits < digits.length then none
  else (ofDigits? base digits).map fun n => if negative then -n else n

/-- Reads an exponent after its letter; without the letter it is zero. -/
def readExponent : List Char → Option Int
  | [] => some 0
  | _ :: s =>
    let (negative, digits) := splitSign s
    (ofDigits? 10 digits).map fun n => if negative then -n else n

def readMagnitude (s : List Char) : Option Double :=
  let word := String.ofList (s.map Char.toLower)
  if word = "inf" ∨ word = "infinity" then some (.infinite false)
  else if word = "nan" then some .nan
  else do
    let mantissa := s.takeWhile fun c => c != 'e' && c != 'E'
    let whole := mantissa.takeWhile (· != '.')
    let part := (mantissa.drop whole.length).drop 1
    let digits ← ofDigits? 10 (whole ++ part)
    let exponent ← readExponent (s.drop mantissa.length)
    some (.ofDecimal false digits (exponent - part.length))

def readDouble (s : List Char) : Option Double :=
  let (negative, rest) := splitSign (trimmed s)
  (readMagnitude rest).map fun x => if negative then x.negate else x

end Stencil.Number
