import Stencil.Markup.Entity.Table
import Stencil.Text.Hex

/-!
Character references: reading them as the characters they stand for, and writing text so that it
reads back as it is.
-/
namespace Stencil.Markup

open Text

structure NamedReference where
  name : List Char
  isLoose : Bool
  value : List Char

def hexOf (digits : List Char) : Nat := (hexNumber? digits.length digits).getD 0

def partsOf (separator : Char) (s : List Char) : List (List Char) :=
  (String.ofList s).splitOn (String.singleton separator) |>.map String.toList

def readEntry (entry : List Char) : NamedReference :=
  let isName := fun c => c != '!' && c != '='
  let codes := (entry.dropWhile isName).drop 1
  ⟨entry.takeWhile isName, entry.contains '!',
    (partsOf '+' codes).map fun digits => Char.ofNat (hexOf digits)⟩

def references : List NamedReference :=
  (namedReferences.flatMap fun line => partsOf ' ' line.toList).map readEntry

def findReference (name : List Char) : Option NamedReference :=
  references.find? fun r => r.name == name

/-- The characters that the numbers from 80 to 9F (base sixteen) stand for; zero for those without
one. -/
def legacyCodes : List Nat :=
  [0x20AC, 0, 0x201A, 0x192, 0x201E, 0x2026, 0x2020, 0x2021, 0x2C6, 0x2030, 0x160, 0x2039, 0x152, 0,
    0x17D, 0, 0, 0x2018, 0x2019, 0x201C, 0x201D, 0x2022, 0x2013, 0x2014, 0x2DC, 0x2122, 0x161,
    0x203A, 0x153, 0, 0x17E, 0x178]

def charOfNumber (n : Nat) : Char :=
  if n = 0 ∨ 0x110000 ≤ n ∨ (0xD800 ≤ n ∧ n < 0xE000) then '\uFFFD'
  else if 0x80 ≤ n ∧ n < 0xA0 then
    match legacyCodes[n - 0x80]? with
    | some 0 | none => Char.ofNat n
    | some code => Char.ofNat code
  else Char.ofNat n

def isAlnum (c : Char) : Bool := c.isAlphanum

/-- A reference at the beginning of a text: what it stands for, and its length. -/
abbrev Reference := List Char × Nat

/-- A number after its mark, `skipped` characters long. -/
def numberReference (skipped : Nat) (isDigit : Char → Bool) (base : Nat) (s : List Char) :
    Option Reference :=
  let digits := s.takeWhile isDigit
  if digits.isEmpty then none
  else
    let n := digits.foldl (fun n d => n * base + (hexValue? d).getD 0) 0
    let length := skipped + digits.length
    some ([charOfNumber n],
      if (s.drop digits.length).head? == some ';' then length + 1 else length)

/-- The longest loose name that a run of letters begins with. -/
def looseReference (run : List Char) : Nat → Option Reference
  | 0 => none
  | n + 1 =>
    match findReference (run.take (n + 1)) with
    | some ⟨_, true, value⟩ => some (value, n + 2)
    | _ => looseReference run n

/-- A name after the ampersand. In the value of an attribute, a name without a semicolon counts
only if neither a letter nor an equals sign follows. -/
def nameReference (inValue : Bool) (s : List Char) : Option Reference :=
  let run := s.takeWhile isAlnum
  let exact := if (s.drop run.length).head? == some ';' then findReference run else none
  match exact with
  | some r => some (r.value, run.length + 2)
  | none =>
    match looseReference run run.length with
    | none => none
    | some (value, length) =>
      let next := (s.drop (length - 1)).head?
      if inValue && next.any fun c => isAlnum c || c == '=' then none else some (value, length)

def reference? (inValue : Bool) : List Char → Option Reference
  | '&' :: '#' :: x :: rest =>
    if x = 'x' ∨ x = 'X' then numberReference 3 (fun c => (hexValue? c).isSome) 16 rest
    else numberReference 2 Char.isDigit 10 (x :: rest)
  | '&' :: rest => nameReference inValue rest
  | _ => none

/-- The text with its references read; `skip` characters belong to one that was read. -/
def decodeFrom (inValue : Bool) : Nat → List Char → List Char
  | _, [] => []
  | skip + 1, _ :: rest => decodeFrom inValue skip rest
  | 0, c :: rest =>
    match reference? inValue (c :: rest) with
    | some (value, length) => value ++ decodeFrom inValue (length - 1) rest
    | none => c :: decodeFrom inValue 0 rest

def decodeReferences (inValue : Bool) (s : List Char) : List Char := decodeFrom inValue 0 s

/-- The text with every ampersand that would be read as part of a reference written as one. -/
def encodeAmpersands (inValue : Bool) : List Char → List Char
  | [] => []
  | c :: rest =>
    if (reference? inValue (c :: rest)).isSome then
      "&amp;".toList ++ encodeAmpersands inValue rest
    else c :: encodeAmpersands inValue rest

def encodeText (s : List Char) : List Char :=
  (encodeAmpersands false s).flatMap fun c => if c = '<' then "&lt;".toList else [c]

end Stencil.Markup
