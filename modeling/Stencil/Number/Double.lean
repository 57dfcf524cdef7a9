/-!
Binary floating-point numbers of 53 bits, as exact data. A finite magnitude is a whole number of
units of 2^-1074, kept as mantissa and scale in the one form that is normal, so equal numbers are
equal data. Rounding goes to the nearest magnitude, and halfway to the even mantissa.
-/
namespace Stencil.Number

attribute [local instance (high)] instPowNat

@[irreducible] def unitsPerOne : Nat := 2 ^ (1074 : Nat)

structure Magnitude where
  mantissa : Nat
  scale : Nat
  mantissa_lt : mantissa < 2 ^ (53 : Nat)
  normal : scale = 0 ∨ 2 ^ (52 : Nat) ≤ mantissa
  scale_le : scale ≤ 2045
  deriving DecidableEq, Repr

inductive Double where
  | nan
  | infinite (negative : Bool)
  | finite (negative : Bool) (magnitude : Magnitude)
  deriving DecidableEq, Repr

namespace Magnitude

def units (m : Magnitude) : Nat := m.mantissa * 2 ^ m.scale

def zero : Magnitude := ⟨0, 0, by decide, .inl rfl, by decide⟩

/-- A magnitude of given parts, if they are in normal form. -/
def ofParts? (mantissa scale : Nat) : Option Magnitude :=
  if h : mantissa < 2 ^ (53 : Nat) ∧ (scale = 0 ∨ 2 ^ (52 : Nat) ≤ mantissa) ∧ scale ≤ 2045 then
    some ⟨mantissa, scale, h.1, h.2.1, h.2.2⟩
  else none

end Magnitude

/-- The quotient rounded to the nearest whole number, halfway to the even one. -/
def roundQuotient (num den : Nat) : Nat :=
  let q := num / den
  let r := num % den
  if 2 * r < den then q
  else if den < 2 * r then q + 1
  else q + q % 2

namespace Magnitude

/-- The magnitude nearest to `num / den` units; none when it lies beyond all finite ones. -/
def ofUnits? (num den : Nat) : Option Magnitude :=
  let scale := (num / den).log2 - 52
  let mantissa := roundQuotient num (den * 2 ^ scale)
  if mantissa = 2 ^ (53 : Nat) then ofParts? (2 ^ (52 : Nat)) (scale + 1)
  else ofParts? mantissa scale

end Magnitude

def digitCount (n : Nat) : Nat := (Nat.toDigits 10 n).length

namespace Double

def zero : Double := .finite false .zero

/-- The number nearest to `num / den` units, infinite beyond the finite range. -/
def ofUnits (negative : Bool) (num den : Nat) : Double :=
  match Magnitude.ofUnits? num den with
  | some m => .finite negative m
  | none => .infinite negative

/-- The number nearest to `digits · 10 ^ exponent`. Far outside the range of finite numbers the
power of ten is not worked out. -/
def ofDecimal (negative : Bool) (digits : Nat) (exponent : Int) : Double :=
  if digits = 0 then .finite negative .zero
  else
    let size := digitCount digits + exponent
    if 400 < size then .infinite negative
    else if size < -400 then .finite negative .zero
    else
      match exponent with
      | .ofNat e => ofUnits negative (digits * 10 ^ e * unitsPerOne) 1
      | .negSucc e => ofUnits negative (digits * unitsPerOne) (10 ^ (e + 1))

def ofNat (n : Nat) : Double := ofUnits false (n * unitsPerOne) 1

def negate : Double → Double
  | .nan => .nan
  | .infinite s => .infinite !s
  | .finite s m => .finite (!s) m

def add : Double → Double → Double
  | .finite s a, .finite t b =>
    if s = t then ofUnits s (a.units + b.units) 1
    else if b.units < a.units then ofUnits s (a.units - b.units) 1
    else if a.units < b.units then ofUnits t (b.units - a.units) 1
    else zero
  | .infinite s, .infinite t => if s = t then .infinite s else .nan
  | .infinite s, .finite .. => .infinite s
  | .finite .., .infinite t => .infinite t
  | _, _ => .nan

def mul : Double → Double → Double
  | .finite s a, .finite t b => ofUnits (s != t) (a.units * b.units) unitsPerOne
  | .infinite s, .infinite t => .infinite (s != t)
  | .infinite s, .finite t b => if b.units = 0 then .nan else .infinite (s != t)
  | .finite s a, .infinite t => if a.units = 0 then .nan else .infinite (s != t)
  | _, _ => .nan

def toInt? : Double → Option Int
  | .finite s m =>
    if m.units % unitsPerOne = 0 then
      let n : Int := m.units / unitsPerOne
      some (if s then -n else n)
    else none
  | _ => none

end Double

end Stencil.Number
