import Stencil.Json.Basic
import Stencil.Number.Shortest

/-!
The text of a value: no spaces, and ASCII only, because every code unit outside printable ASCII is
escaped. Infinite numbers are written as the constant of that name.
-/
namespace Stencil.Json

open Number Text

attribute [local instance (high)] instPowNat

def hexDigit (n : Nat) : Char := Char.ofNat (if n < 10 then 0x30 + n else 0x57 + n)

def escapeUnit (u : UInt16) : List Char :=
  let n := u.toNat
  if n = 0x22 then ['\\', '"']
  else if n = 0x5C then ['\\', '\\']
  else if n = 0x0A then ['\\', 'n']
  else if n = 0x0D then ['\\', 'r']
  else if n = 0x09 then ['\\', 't']
  else if n = 0x0C then ['\\', 'f']
  else if n = 0x08 then ['\\', 'b']
  else if 0x20 ≤ n ∧ n < 0x7F then [Char.ofNat n]
  else
    ['\\', 'u', hexDigit (n / 0x1000), hexDigit (n / 0x100 % 16), hexDigit (n / 16 % 16),
      hexDigit (n % 16)]

def writeText (s : Units) : List Char := '"' :: s.flatMap escapeUnit ++ ['"']

def writeInteger (n : Int) : List Char :=
  (if n < 0 then ['-'] else []) ++ Nat.toDigits 10 n.natAbs

def writeNumber (x : Double) : List Char := x.text "Infinity" "NaN"

mutual

def write : Json → List Char
  | .null => ['n', 'u', 'l', 'l']
  | .bool true => ['t', 'r', 'u', 'e']
  | .bool false => ['f', 'a', 'l', 's', 'e']
  | .integer n => writeInteger n
  | .number x => writeNumber x
  | .text s => writeText s
  | .list items => '[' :: writeItems items ++ [']']
  | .object fields => '{' :: writeFields fields ++ ['}']

/-- The items of a list, with a comma between two of them. -/
def writeItems : List Json → List Char
  | [] => []
  | [v] => write v
  | v :: next :: rest => write v ++ ',' :: writeItems (next :: rest)

/-- The fields of an object, with a comma between two of them. -/
def writeFields : List (Units × Json) → List Char
  | [] => []
  | [(name, v)] => writeText name ++ ':' :: write v
  | (name, v) :: next :: rest =>
    writeText name ++ ':' :: write v ++ ',' :: writeFields (next :: rest)

end

/-- Whole numbers of more digits are refused, in and out. -/
def maxDigits : Nat := 4300

mutual

/-- No whole number in the value is too long to be written. -/
def writable : Json → Bool
  | .integer n => decide (n.natAbs < 10 ^ maxDigits)
  | .list items => writableItems items
  | .object fields => writableFields fields
  | _ => true

def writableItems : List Json → Bool
  | [] => true
  | v :: rest => writable v && writableItems rest

def writableFields : List (Units × Json) → Bool
  | [] => true
  | (_, v) :: rest => writable v && writableFields rest

end

def serialize (v : Json) : Option (List Char) := if v.writable then some v.write else none

end Stencil.Json
