import Stencil.Number.Double

/-!
The decimal text of a floating-point number: the fewest digits that read back as the same number,
and of those the nearest to it. A decimal reads back if it lies between the midpoints to the
neighbouring numbers; the midpoints themselves belong to a number with an even mantissa.
-/
namespace Stencil.Number

attribute [local instance (high)] instPowNat

namespace Magnitude

/-- The decimals that round to a magnitude, in quarters of a unit: lower and upper end. -/
def interval (m : Magnitude) : Nat × Nat :=
  let quarter := 2 ^ m.scale
  let value := 4 * m.units
  let below := if m.mantissa = 2 ^ (52 : Nat) ∧ 0 < m.scale then quarter else 2 * quarter
  (value - below, value + 2 * quarter)

/-- The exponent of the leading decimal digit of a magnitude other than zero. -/
def leadingExponent (m : Magnitude) : Int :=
  digitCount (m.units * 10 ^ (400 : Nat) / unitsPerOne) - 401

def readsBack (m : Magnitude) (c : Nat) (exponent : Int) : Bool :=
  let (low, high) := m.interval
  let point := c * 10 ^ exponent.toNat * (4 * unitsPerOne)
  let low := low * 10 ^ (-exponent).toNat
  let high := high * 10 ^ (-exponent).toNat
  if m.mantissa % 2 = 0 then low ≤ point && point ≤ high else low < point && point < high

/-- Of the two neighbours of the magnitude on the grid of `10 ^ exponent`, the nearer one that
reads back; halfway between them the even one. -/
def neighbour? (m : Magnitude) (exponent : Int) : Option Nat :=
  let value := 4 * m.units * 10 ^ (-exponent).toNat
  let cell := 10 ^ exponent.toNat * (4 * unitsPerOne)
  let c := value / cell
  let r := value % cell
  let lower := 2 * r < cell || (2 * r == cell && c % 2 == 0)
  if m.readsBack c exponent && (lower || !m.readsBack (c + 1) exponent) then some c
  else if m.readsBack (c + 1) exponent then some (c + 1)
  else none

/-- Grids from coarse to fine, the first one with `exponent`. -/
def shortestFrom (m : Magnitude) : Nat → Int → Nat × Int
  | 0, exponent => ((m.neighbour? exponent).getD 0, exponent)
  | more + 1, exponent =>
    match m.neighbour? exponent with
    | some c => (c, exponent)
    | none => shortestFrom m more (exponent - 1)

/-- The shortest decimal `c · 10 ^ e` of a magnitude other than zero; 17 digits always do. -/
def shortest (m : Magnitude) : Nat × Int := m.shortestFrom 16 m.leadingExponent

end Magnitude

/-- Digits without the zeros at their end; the exponent makes up for them. -/
def stripZeros : List Char → List Char
  | [] => []
  | c :: rest =>
    match stripZeros rest with
    | [] => if c = '0' then [] else [c]
    | kept => c :: kept

/-- Digits `d₀.d₁d₂… · 10 ^ e` as a text: positional for exponents from -4 to 15, else with an
exponent of at least two digits. A positional text always has a fraction. -/
def decimalText (digits : List Char) (e : Int) : List Char :=
  if -4 ≤ e ∧ e < 16 then
    if e < 0 then ['0', '.'] ++ List.replicate (-e - 1).toNat '0' ++ digits
    else
      let whole := digits.take (e.toNat + 1)
      let part := digits.drop (e.toNat + 1)
      whole ++ List.replicate (e.toNat + 1 - whole.length) '0' ++ ['.'] ++
        (if part.isEmpty then ['0'] else part)
  else
    let exponent := Nat.toDigits 10 e.natAbs
    digits.take 1 ++ (if digits.length ≤ 1 then [] else '.' :: digits.drop 1) ++
      ['e', if e < 0 then '-' else '+'] ++
      (if exponent.length < 2 then ['0'] else []) ++ exponent

def Magnitude.text (m : Magnitude) : List Char :=
  if m.units = 0 then ['0', '.', '0']
  else
    let (c, exponent) := m.shortest
    let digits := Nat.toDigits 10 c
    decimalText (stripZeros digits) (exponent + (digits.length - 1 : Nat))

/-- The decimal text of a number, with the words for the three that are not finite. -/
def Double.text (infinity notANumber : String) : Double → List Char
  | .nan => notANumber.toList
  | .infinite negative => (if negative then ['-'] else []) ++ infinity.toList
  | .finite negative m => (if negative then ['-'] else []) ++ m.text

end Stencil.Number
