import Mathlib.Algebra.Order.Field.Power
import Mathlib.Data.Rat.Cast.Order
import Mathlib.Tactic.FieldSimp
import Mathlib.Tactic.Linarith
import Mathlib.Tactic.NormNum
import Mathlib.Tactic.Positivity
import Mathlib.Tactic.Ring
import Stencil.Proofs.Number.Shortest

/-!
Decimals as rational numbers. Whether a decimal reads back as a magnitude depends on its value
alone, so digits may be moved across the point and zeros added or dropped.
-/
namespace Stencil.Number

def decimalUnits (c : Nat) (exponent : Int) : ℚ := c * 10 ^ exponent * unitsPerOne

theorem cast_unitsPerOne_pos : (0 : ℚ) < unitsPerOne := by
  exact_mod_cast unitsPerOne_pos

/-- Zeros at the end of the digits make up for a larger exponent. -/
theorem decimalUnits_shift (c k : Nat) (exponent : Int) :
    decimalUnits (c * 10 ^ k) (exponent - k) = decimalUnits c exponent := by
  have h : (10 : ℚ) ^ k * 10 ^ (exponent - k) = 10 ^ exponent := by
    rw [← zpow_natCast, ← zpow_add₀ (by norm_num)]
    congr 1
    omega
  simp only [decimalUnits]
  push_cast
  rw [mul_assoc (c : ℚ), h]

theorem decimalUnits_eq (c : Nat) (exponent : Int) :
    decimalUnits c exponent = decimalNum c exponent / decimalDen exponent := by
  have h : (10 : ℚ) ^ exponent = 10 ^ exponent.toNat / 10 ^ (-exponent).toNat := by
    rw [eq_div_iff (by positivity), ← zpow_natCast, ← zpow_natCast, ← zpow_add₀ (by norm_num)]
    congr 1
    omega
  rw [decimalUnits, decimalNum, decimalDen, h, mul_div_assoc', div_mul_eq_mul_div]
  simp only [Nat.cast_mul, Nat.cast_pow, Nat.cast_ofNat]

theorem decimalUnits_le {c d : Nat} (h : c ≤ d) (exponent : Int) :
    decimalUnits c exponent ≤ decimalUnits d exponent := by
  have hpos : (0 : ℚ) ≤ 10 ^ exponent := (zpow_pos (by norm_num) _).le
  have hc : (c : ℚ) ≤ d := by exact_mod_cast h
  exact mul_le_mul_of_nonneg_right (mul_le_mul_of_nonneg_right hc hpos) cast_unitsPerOne_pos.le

theorem decimalUnits_lt {c d : Nat} (h : c < d) (exponent : Int) :
    decimalUnits c exponent < decimalUnits d exponent := by
  have hpos : (0 : ℚ) < 10 ^ exponent := zpow_pos (by norm_num) _
  have hc : (c : ℚ) < d := by exact_mod_cast h
  exact mul_lt_mul_of_pos_right (mul_lt_mul_of_pos_right hc hpos) cast_unitsPerOne_pos

/-- The value of a power of ten with a natural exponent taken out. -/
theorem decimalUnits_pow (k : Nat) (exponent : Int) :
    decimalUnits (10 ^ k) exponent = decimalUnits 1 (exponent + k) := by
  have h := decimalUnits_shift 1 k (exponent + k)
  rwa [Nat.one_mul, Int.add_sub_cancel] at h

theorem decimalUnits_one_le {e f : Int} (h : e ≤ f) : decimalUnits 1 e ≤ decimalUnits 1 f := by
  obtain ⟨k, rfl⟩ := Int.le.dest h
  rw [← decimalUnits_pow]
  exact decimalUnits_le (Nat.pow_pos (by decide)) e

namespace Magnitude

/-- The value lies in the interval of the magnitude, at an end only if the mantissa is even. -/
structure Near (m : Magnitude) (x : ℚ) : Prop where
  low : (4 * m.units : ℚ) ≤ 4 * x + m.below
  high : 4 * x ≤ 4 * m.units + 2 * 2 ^ m.scale
  odd : m.mantissa % 2 = 1 →
    (4 * m.units : ℚ) < 4 * x + m.below ∧ 4 * x < 4 * m.units + 2 * 2 ^ m.scale

theorem holds_iff {m : Magnitude} {num den : Nat} (hd : 0 < den) :
    m.Holds num den ↔ m.Near (num / den) := by
  have hpos : (0 : ℚ) < den := by exact_mod_cast hd
  have hx : 4 * ((num : ℚ) / den) * den = 4 * num := by
    rw [mul_assoc, div_mul_cancel₀ _ (ne_of_gt hpos)]
  have hlow : (4 * m.units : ℚ) ≤ 4 * ((num : ℚ) / den) + m.below ↔
      4 * m.units * den ≤ 4 * num + m.below * den := by
    rw [← mul_le_mul_iff_of_pos_right hpos, add_mul, hx]
    exact_mod_cast Iff.rfl
  have hlow' : (4 * m.units : ℚ) < 4 * ((num : ℚ) / den) + m.below ↔
      4 * m.units * den < 4 * num + m.below * den := by
    rw [← mul_lt_mul_iff_of_pos_right hpos, add_mul, hx]
    exact_mod_cast Iff.rfl
  have hhigh : 4 * ((num : ℚ) / den) ≤ 4 * m.units + 2 * 2 ^ m.scale ↔
      4 * num ≤ 4 * m.units * den + 2 * 2 ^ m.scale * den := by
    rw [← mul_le_mul_iff_of_pos_right hpos, add_mul, hx]
    exact_mod_cast Iff.rfl
  have hhigh' : 4 * ((num : ℚ) / den) < 4 * m.units + 2 * 2 ^ m.scale ↔
      4 * num < 4 * m.units * den + 2 * 2 ^ m.scale * den := by
    rw [← mul_lt_mul_iff_of_pos_right hpos, add_mul, hx]
    exact_mod_cast Iff.rfl
  constructor
  · rintro ⟨h₁, h₂, h₃⟩
    refine ⟨hlow.mpr h₁, hhigh.mpr h₂, fun ho => ?_⟩
    exact ⟨hlow'.mpr (h₃ ho).1, hhigh'.mpr (h₃ ho).2⟩
  · rintro ⟨h₁, h₂, h₃⟩
    refine ⟨hlow.mp h₁, hhigh.mp h₂, fun ho => ?_⟩
    exact ⟨hlow'.mp (h₃ ho).1, hhigh'.mp (h₃ ho).2⟩

/-- A decimal reads back if its value lies in the interval. -/
theorem readsBack_iff {m : Magnitude} (hm : 0 < m.units) (c : Nat) (exponent : Int) :
    m.readsBack c exponent = true ↔ m.Near (decimalUnits c exponent) := by
  rw [readsBack_eq hm, holds_iff (decimalDen_pos exponent), decimalUnits_eq]

section

variable {m : Magnitude} {x : ℚ} {c : Nat} {exponent : Int}

theorem Near.units_le (h : m.Near x) (hm : 0 < m.units) : (m.units : ℚ) ≤ 2 * x := by
  have hb : (m.below : ℚ) ≤ 2 * m.units := by exact_mod_cast below_le_units hm
  have hlow := h.low
  linarith

theorem Near.le_units (h : m.Near x) (hm : 0 < m.units) : x ≤ 2 * m.units := by
  have hpow : (2 ^ m.scale : ℚ) ≤ m.units := by exact_mod_cast pow_scale_le hm
  have hhigh := h.high
  linarith

theorem Near.pos (h : m.Near (decimalUnits c exponent)) (hm : 0 < m.units) : 0 < c := by
  refine Nat.pos_of_ne_zero fun hc => ?_
  have hle := h.units_le hm
  have hunits : (1 : ℚ) ≤ m.units := by exact_mod_cast hm
  rw [decimalUnits, hc, Nat.cast_zero, zero_mul, zero_mul, mul_zero] at hle
  exact absurd (hunits.trans hle) (by norm_num)

theorem Near.size_le (h : m.Near (decimalUnits c exponent)) (hm : 0 < m.units) :
    (digitCount c : Int) + exponent ≤ sizeLimit := by
  by_contra hbig
  have hcount : 0 < digitCount c := Nat.length_toDigits_pos
  have hlow := decimalUnits_le (pow_digitCount_le (h.pos hm)) exponent
  rw [decimalUnits_pow] at hlow
  have hle : decimalUnits 1 sizeLimit ≤ 2 * m.units :=
    (decimalUnits_one_le (by omega)).trans (hlow.trans (h.le_units hm))
  rw [decimalUnits_eq, decimalDen_sizeLimit, Nat.cast_one, div_one] at hle
  have hnat : decimalNum 1 sizeLimit ≤ 2 * m.units := by exact_mod_cast hle
  exact absurd hnat (Nat.not_le_of_lt (two_units_lt m))

theorem Near.le_size (h : m.Near (decimalUnits c exponent)) (hm : 0 < m.units) :
    -sizeLimit ≤ (digitCount c : Int) + exponent := by
  by_contra hsmall
  have hhigh := decimalUnits_lt (lt_pow_digitCount c) exponent
  rw [decimalUnits_pow] at hhigh
  have hlt :=
    hhigh.trans_le (decimalUnits_one_le (show exponent + digitCount c ≤ -sizeLimit by omega))
  have hunits : (1 : ℚ) ≤ m.units := by exact_mod_cast hm
  have hden : (0 : ℚ) < decimalDen (-sizeLimit) := by exact_mod_cast decimalDen_pos (-sizeLimit)
  have hone : (1 : ℚ) < 2 * decimalUnits 1 (-sizeLimit) := by
    have hle := h.units_le hm
    linarith
  rw [decimalUnits_eq, mul_div_assoc', lt_div_iff₀ hden, one_mul] at hone
  have hfact := two_decimalNum_lt
  generalize decimalNum 1 (-sizeLimit) = num at hone hfact
  generalize decimalDen (-sizeLimit) = den at hone hfact
  have hnat : den < 2 * num := by exact_mod_cast hone
  exact absurd hnat (Nat.not_lt_of_lt hfact)

/-- A decimal in the interval of a magnitude other than zero reads back as that magnitude. -/
theorem Near.ofDecimal_eq (h : m.Near (decimalUnits c exponent)) (hm : 0 < m.units)
    (negative : Bool) : Double.ofDecimal negative c exponent = .finite negative m := by
  have hholds : m.Holds (decimalNum c exponent) (decimalDen exponent) := by
    rw [holds_iff (decimalDen_pos exponent), ← decimalUnits_eq]
    exact h
  have hsize := ofDecimal_of_size negative (h.pos hm) (h.size_le hm) (h.le_size hm)
  exact hsize.trans (hholds.ofUnits_eq (decimalDen_pos exponent) negative)

end

theorem leadingExponent_le {m : Magnitude} (hm : 0 < m.units) :
    decimalUnits 1 m.leadingExponent ≤ m.units := by
  have hden : (0 : ℚ) < decimalDen (-sizeLimit) := by exact_mod_cast decimalDen_pos (-sizeLimit)
  obtain ⟨count, hexponent, hle⟩ := leading_le hm
  rw [hexponent, ← decimalUnits_pow, decimalUnits_eq, div_le_iff₀ hden]
  exact_mod_cast hle

/-- The grid of the seventeenth digit is finer than the interval. -/
theorem fine_of_leadingExponent {m : Magnitude} (hm : 0 < m.units) :
    4 * decimalNum 1 (m.leadingExponent - 16) <
      2 * (m.below * decimalDen (m.leadingExponent - 16)) := by
  have hden : (0 : ℚ) < decimalDen (m.leadingExponent - 16) := by
    exact_mod_cast decimalDen_pos _
  have hcell : decimalUnits 1 (m.leadingExponent - 16) * 10 ^ 16 ≤ m.units := by
    have hshift := decimalUnits_shift 1 16 m.leadingExponent
    have hmul : decimalUnits (1 * 10 ^ 16) (m.leadingExponent - 16) =
        decimalUnits 1 (m.leadingExponent - 16) * 10 ^ 16 := by
      simp only [decimalUnits]
      push_cast
      ring
    rw [← hmul]
    exact hshift.le.trans (leadingExponent_le hm)
  have hunits : (m.units : ℚ) ≤ m.below * 2 ^ 52 := by exact_mod_cast m.units_le_below
  have hone : (1 : ℚ) ≤ m.units := by exact_mod_cast hm
  have hhalf : 4 * decimalUnits 1 (m.leadingExponent - 16) < 2 * m.below := by linarith
  rw [decimalUnits_eq, mul_div_assoc', div_lt_iff₀ hden, mul_assoc] at hhalf
  exact_mod_cast hhalf

/-- The shortest decimal of a magnitude other than zero lies in the interval of the magnitude. -/
theorem near_shortest {m : Magnitude} (hm : 0 < m.units) :
    m.Near (decimalUnits m.shortest.1 m.shortest.2) := by
  rw [← readsBack_iff hm]
  exact readsBack_shortestFrom 16 _ (neighbour?_isSome_of_fine hm (fine_of_leadingExponent hm))

end Magnitude

end Stencil.Number
