import Stencil.Json.Basic
import Stencil.Number.Double
import Stencil.Text.Hex

/-!
Reading a value from a text. A number is whole if it has neither fraction nor exponent; the
constants for infinite numbers are read as well. White space may stand between the parts.
-/
namespace Stencil.Json

open Number Text

/-- The text from its first character that is not white space. -/
def skipBlank (s : List Char) : List Char := s.dropWhile Char.isWhitespace

def shortEscape? : Char → Option UInt16
  | '"' => some 0x22
  | '\\' => some 0x5C
  | '/' => some 0x2F
  | 'n' => some 0x0A
  | 'r' => some 0x0D
  | 't' => some 0x09
  | 'f' => some 0x0C
  | 'b' => some 0x08
  | _ => none

/-- A string after its opening quotation mark, and what follows the closing one. -/
def readText : List Char → Option (Units × List Char)
  | '"' :: rest => some ([], rest)
  | '\\' :: 'u' :: a :: b :: c :: d :: rest => do
    let unit := UInt16.ofNat
      (((← hexValue? a) * 16 + (← hexValue? b)) * 256 + (← hexValue? c) * 16 + (← hexValue? d))
    let (s, rest) ← readText rest
    some (unit :: s, rest)
  | '\\' :: e :: rest => do
    let unit ← shortEscape? e
    let (s, rest) ← readText rest
    some (unit :: s, rest)
  | c :: rest => do
    let (s, rest) ← readText rest
    some (unitsOfChar c ++ s, rest)
  | [] => none

def digitsValue (digits : List Char) : Nat :=
  digits.foldl (fun n c => n * 10 + (c.toNat - 0x30)) 0

def takeDigits (s : List Char) : List Char × List Char := s.span Char.isDigit

/-- The fraction of a number, if its point and a digit come next. -/
def readFraction : List Char → List Char × List Char
  | '.' :: rest =>
    match takeDigits rest with
    | ([], _) => ([], '.' :: rest)
    | found => found
  | s => ([], s)

def readSign : List Char → Bool × List Char
  | '-' :: rest => (true, rest)
  | '+' :: rest => (false, rest)
  | s => (false, s)

/-- The exponent of a number, if its letter and a digit come next. -/
def readExponent : List Char → Option Int × List Char
  | [] => (none, [])
  | e :: rest =>
    if e = 'e' ∨ e = 'E' then
      let (negative, digits) := readSign rest
      match takeDigits digits with
      | ([], _) => (none, e :: rest)
      | (found, after) =>
        let n : Int := digitsValue found
        (some (if negative then -n else n), after)
    else (none, e :: rest)

def readNumber (negative : Bool) (s : List Char) : Option (Json × List Char) :=
  match takeDigits s with
  | ([], 'I' :: 'n' :: 'f' :: 'i' :: 'n' :: 'i' :: 't' :: 'y' :: rest) =>
    some (.number (.infinite negative), rest)
  | ([], _) => none
  | (whole, rest) =>
    let (fraction, rest) := readFraction rest
    let (exponent, rest) := readExponent rest
    if fraction.isEmpty && exponent.isNone then
      let n : Int := digitsValue whole
      some (.integer (if negative then -n else n), rest)
    else
      some (.number (.ofDecimal negative (digitsValue (whole ++ fraction))
        (exponent.getD 0 - fraction.length)), rest)

mutual

/-- A value and what follows it. Every call works on less text or on the same text with a smaller
allowance. -/
def readValue : Nat → List Char → Option (Json × List Char)
  | 0, _ => none
  | fuel + 1, s =>
    match skipBlank s with
    | 'n' :: 'u' :: 'l' :: 'l' :: rest => some (.null, rest)
    | 't' :: 'r' :: 'u' :: 'e' :: rest => some (.bool true, rest)
    | 'f' :: 'a' :: 'l' :: 's' :: 'e' :: rest => some (.bool false, rest)
    | '"' :: rest => (readText rest).map fun (u, rest) => (.text u, rest)
    | '-' :: rest => readNumber true rest
    | '[' :: rest =>
      match skipBlank rest with
      | ']' :: rest => some (.list [], rest)
      | rest => (readItems fuel rest).map fun (items, rest) => (.list items, rest)
    | '{' :: rest =>
      match skipBlank rest with
      | '}' :: rest => some (.object [], rest)
      | rest => (readFields fuel rest).map fun (fields, rest) => (.object fields, rest)
    | s => readNumber false s

def readItems : Nat → List Char → Option (List Json × List Char)
  | 0, _ => none
  | fuel + 1, s =>
    match readValue fuel s with
    | none => none
    | some (v, rest) =>
      match skipBlank rest with
      | ',' :: rest => (readItems fuel rest).map fun (items, rest) => (v :: items, rest)
      | ']' :: rest => some ([v], rest)
      | _ => none

def readFields : Nat → List Char → Option (List (Units × Json) × List Char)
  | 0, _ => none
  | fuel + 1, s =>
    match skipBlank s with
    | '"' :: rest =>
      match readText rest with
      | none => none
      | some (name, rest) =>
        match skipBlank rest with
        | ':' :: rest =>
          match readValue fuel rest with
          | none => none
          | some (v, rest) =>
            match skipBlank rest with
            | ',' :: rest =>
              (readFields fuel rest).map fun (fields, rest) => ((name, v) :: fields, rest)
            | '}' :: rest => some ([(name, v)], rest)
            | _ => none
        | _ => none
    | _ => none

end

/-- The value at the beginning of a text, and what follows it. -/
def readFirst (s : List Char) : Option (Json × List Char) := readValue (2 * s.length + 2) s

def read (s : List Char) : Option Json :=
  match readFirst s with
  | some (v, rest) => if (skipBlank rest).isEmpty then some v else none
  | none => none

end Stencil.Json
