import Stencil.Json.Writer
import Stencil.Template.Failure
import Stencil.Template.Symbol
import Stencil.Text.Word

/-!
Numbers in expressions: how long the numeral at the beginning of a text is, and what it stands for.
Single low lines may stand between digits, and decimal digits of every script count.
-/
namespace Stencil.Template

open Number Text

/-- The length of the digits that go on, each with at most one low line before it. -/
def moreDigits (isDigit : Char → Bool) : List Char → Nat
  | '_' :: d :: rest => if isDigit d then 2 + moreDigits isDigit rest else 0
  | d :: rest => if isDigit d then 1 + moreDigits isDigit rest else 0
  | [] => 0

def digitRun (isDigit : Char → Bool) : List Char → Nat
  | d :: rest => if isDigit d then 1 + moreDigits isDigit rest else 0
  | [] => 0

def fractionLength : List Char → Nat
  | '.' :: rest => if digitRun isDecimal rest = 0 then 0 else 1 + digitRun isDecimal rest
  | _ => 0

def signedLength : List Char → Nat
  | [] => 0
  | c :: rest =>
    if c = '+' ∨ c = '-' then if digitRun isDecimal rest = 0 then 0 else 1 + digitRun isDecimal rest
    else digitRun isDecimal (c :: rest)

/-- The length of an exponent: its letter and digits, which may have a sign. -/
def exponentLength : List Char → Nat
  | [] => 0
  | c :: rest =>
    if (c = 'e' ∨ c = 'E') ∧ 0 < signedLength rest then 1 + signedLength rest else 0

/-- The length of a number with a fraction, an exponent or both; zero if there is none. -/
def floatLength (s : List Char) : Nat :=
  let whole := digitRun isDecimal s
  if whole = 0 then 0
  else
    let fraction := fractionLength (s.drop whole)
    let exponent := exponentLength (s.drop (whole + fraction))
    if fraction + exponent = 0 then 0 else whole + fraction + exponent

def isHexDigit (c : Char) : Bool := isDecimal c || (hexValue? c).isSome

/-- The length of a numeral with a marked base: a zero, the letter of the base, and digits. -/
def basedLength (letter : Char) (isDigit : Char → Bool) : List Char → Nat
  | '0' :: b :: rest =>
    if (b == letter || b == letter.toUpper) && 0 < moreDigits isDigit rest then
      2 + moreDigits isDigit rest
    else 0
  | _ => 0

/-- The length of a whole number; zero if there is none. A number that begins with a zero is zero,
unless the zero marks another base. -/
def integerLength (s : List Char) : Nat :=
  let binary := basedLength 'b' (fun c => c == '0' || c == '1') s
  let octal := basedLength 'o' isOctal s
  let hex := basedLength 'x' isHexDigit s
  if 0 < binary then binary
  else if 0 < octal then octal
  else if 0 < hex then hex
  else
    match s with
    | [] => 0
    | c :: rest =>
      if c = '0' then 1 + moreDigits (· == '0') rest
      else if '1' ≤ c ∧ c ≤ '9' then 1 + moreDigits isDecimal rest
      else 0

def digitValue (c : Char) : Nat := (hexValue? c).getD (decimalValue c)

def numberOf (base : Nat) (digits : List Char) : Nat :=
  digits.foldl (fun n c => n * base + digitValue c) 0

/-- The value of a whole number; decimal numerals of too many digits are not converted. -/
def integerValue (numeral : List Char) : Except Failure Nat :=
  let digits := numeral.filter (· != '_')
  match digits with
  | '0' :: base :: rest =>
    if base = 'b' ∨ base = 'B' then .ok (numberOf 2 rest)
    else if base = 'o' ∨ base = 'O' then .ok (numberOf 8 rest)
    else if base = 'x' ∨ base = 'X' then .ok (numberOf 16 rest)
    else if Json.maxDigits < digits.length then .error .tooManyDigits
    else .ok (numberOf 10 digits)
  | _ =>
    if Json.maxDigits < digits.length then .error .tooManyDigits else .ok (numberOf 10 digits)

def floatValue (numeral : List Char) : Except Failure Double :=
  let text := numeral.filter (· != '_')
  if text.any (fun c => 0x80 ≤ c.toNat) then .error .foreignDigit
  else
    let mantissa := text.takeWhile fun c => c != 'e' && c != 'E'
    let whole := mantissa.takeWhile (· != '.')
    let part := (mantissa.drop whole.length).drop 1
    let exponent := (text.drop mantissa.length).drop 1
    let size : Int := numberOf 10 (exponent.filter fun c => c != '+' && c != '-')
    let exponent := if exponent.head? == some '-' then -size else size
    .ok (.ofDecimal false (numberOf 10 (whole ++ part)) (exponent - part.length))

end Stencil.Template
