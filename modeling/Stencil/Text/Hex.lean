/-!
Hexadecimal numbers in a text.
-/
namespace Stencil.Text

def hexValue? (c : Char) : Option Nat :=
  if '0' ≤ c ∧ c ≤ '9' then some (c.toNat - '0'.toNat)
  else if 'a' ≤ c ∧ c ≤ 'f' then some (c.toNat - 'a'.toNat + 10)
  else if 'A' ≤ c ∧ c ≤ 'F' then some (c.toNat - 'A'.toNat + 10)
  else none

/-- The number written by exactly `width` hexadecimal digits at the beginning of a text. -/
def hexNumber? (width : Nat) (s : List Char) : Option Nat :=
  if s.length < width then none
  else (s.take width).foldlM (fun n c => (hexValue? c).map (n * 16 + ·)) 0

end Stencil.Text
