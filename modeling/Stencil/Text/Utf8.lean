/-!
UTF-8. A decoder reads byte by byte and never fails: each longest piece that cannot be completed to
a character stands for one mark of damage, and reading goes on with the byte that broke it.
-/
namespace Stencil.Text

abbrev Bytes := List UInt8

inductive Utf8State where
  | start
  /-- A character is open: its bits so far, the range of the next byte, and how many follow it. -/
  | inside (bits low high left : Nat)
  deriving DecidableEq, Repr

abbrev Decoded := Option Char

/-- The first byte of a character, read while nothing is open. -/
def Utf8State.first (b : Nat) : List Decoded × Utf8State :=
  if b < 0x80 then ([some (Char.ofNat b)], .start)
  else if 0xC2 ≤ b && b ≤ 0xDF then ([], .inside (b - 0xC0) 0x80 0xBF 0)
  else if b == 0xE0 then ([], .inside 0 0xA0 0xBF 1)
  else if b == 0xED then ([], .inside 0xD 0x80 0x9F 1)
  else if 0xE1 ≤ b && b ≤ 0xEF then ([], .inside (b - 0xE0) 0x80 0xBF 1)
  else if b == 0xF0 then ([], .inside 0 0x90 0xBF 2)
  else if 0xF1 ≤ b && b ≤ 0xF3 then ([], .inside (b - 0xF0) 0x80 0xBF 2)
  else if b == 0xF4 then ([], .inside 4 0x80 0x8F 2)
  else ([none], .start)

/-- One byte more: what it completes, and what stays open. -/
def Utf8State.step : Utf8State → Nat → List Decoded × Utf8State
  | .start, b => first b
  | .inside bits low high left, b =>
    if low ≤ b && b ≤ high then
      match left with
      | 0 => ([some (Char.ofNat (bits * 64 + (b - 0x80)))], .start)
      | left + 1 => ([], .inside (bits * 64 + (b - 0x80)) 0x80 0xBF left)
    else (none :: (first b).1, (first b).2)

/-- What the end of the input makes of an open character. -/
def Utf8State.finish : Utf8State → List Decoded
  | .start => []
  | .inside .. => [none]

/-- All that is decoded from here to the end of the input. -/
def Utf8State.run : Utf8State → Bytes → List Decoded
  | s, [] => s.finish
  | s, b :: rest => (s.step b.toNat).1 ++ run (s.step b.toNat).2 rest

/-- U+FFFD, which is shown where bytes are damaged. -/
def replacement : Char := Char.ofNat 0xFFFD

/-- The text of the bytes, with a replacement character for each damaged piece. -/
def decodeUtf8 (bytes : Bytes) : List Char :=
  (Utf8State.start.run bytes).map fun d => d.getD replacement

/-- The text of the bytes, when none is damaged. -/
def decodeUtf8? (bytes : Bytes) : Option (List Char) :=
  (Utf8State.start.run bytes).mapM id

def encodeChar (c : Char) : Bytes :=
  let n := c.toNat
  if n < 0x80 then [UInt8.ofNat n]
  else if n < 0x800 then [UInt8.ofNat (0xC0 + n / 64), UInt8.ofNat (0x80 + n % 64)]
  else if n < 0x10000 then
    [UInt8.ofNat (0xE0 + n / 4096), UInt8.ofNat (0x80 + n / 64 % 64),
      UInt8.ofNat (0x80 + n % 64)]
  else
    [UInt8.ofNat (0xF0 + n / 262144), UInt8.ofNat (0x80 + n / 4096 % 64),
      UInt8.ofNat (0x80 + n / 64 % 64), UInt8.ofNat (0x80 + n % 64)]

def encodeUtf8 (s : List Char) : Bytes := s.flatMap encodeChar

@[simp] theorem encodeUtf8_nil : encodeUtf8 [] = [] := rfl

@[simp] theorem encodeUtf8_cons (c : Char) (s : List Char) :
    encodeUtf8 (c :: s) = encodeChar c ++ encodeUtf8 s := rfl

@[simp] theorem encodeUtf8_append (s t : List Char) :
    encodeUtf8 (s ++ t) = encodeUtf8 s ++ encodeUtf8 t := by
  simp [encodeUtf8]

end Stencil.Text
