import Stencil.Text.Utf8

/-!
Bytes written with sixty-four signs, four signs for three bytes. Characters that are no signs do not
count; equals signs fill up the last four.
-/
namespace Stencil.Text

def sextet? (c : Char) : Option Nat :=
  if 'A' ≤ c ∧ c ≤ 'Z' then some (c.toNat - 'A'.toNat)
  else if 'a' ≤ c ∧ c ≤ 'z' then some (c.toNat - 'a'.toNat + 26)
  else if '0' ≤ c ∧ c ≤ '9' then some (c.toNat - '0'.toNat + 52)
  else if c = '+' then some 62
  else if c = '/' then some 63
  else none

/-- The bytes of the signs that remain, given how many of a group were read and their leftover bits.
Padding after two signs or more ends the text; without it the last group has to be complete. -/
def base64From (count bits pads : Nat) : List Char → Option Bytes
  | [] => if count = 0 then some [] else none
  | c :: rest =>
    if c = '=' then
      if 2 ≤ count ∧ 4 ≤ count + (pads + 1) then some []
      else base64From count bits (if 2 ≤ count then pads + 1 else pads) rest
    else
      match sextet? c, count with
      | none, _ => base64From count bits pads rest
      | some v, 0 => base64From 1 v 0 rest
      | some v, 1 => (base64From 2 (v % 16) 0 rest).map (UInt8.ofNat (bits * 4 + v / 16) :: ·)
      | some v, 2 => (base64From 3 (v % 4) 0 rest).map (UInt8.ofNat (bits * 16 + v / 4) :: ·)
      | some v, _ => (base64From 0 0 0 rest).map (UInt8.ofNat (bits * 64 + v) :: ·)

def decodeBase64? (s : List Char) : Option Bytes := base64From 0 0 0 s

end Stencil.Text
