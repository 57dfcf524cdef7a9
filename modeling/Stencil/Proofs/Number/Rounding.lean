import Stencil.Number.Shortest

/-!
Rounding a quotient to a magnitude. The interval of a magnitude holds the quotients that round to
it: with half a unit of its last place on either side, but only a quarter of one below a power of
two, where the magnitudes stand twice as close.
-/
namespace Stencil.Number

attribute [local instance (high)] instPowNat

/-- A quotient within half of a whole number rounds to it; at exactly half only if it is even. -/
theorem roundQuotient_eq {num den n : Nat} (hd : 0 < den) (hlow : 2 * (n * den) ≤ 2 * num + den)
    (hhigh : 2 * num ≤ 2 * (n * den) + den)
    (hodd : n % 2 = 1 → 2 * (n * den) < 2 * num + den ∧ 2 * num < 2 * (n * den) + den) :
    roundQuotient num den = n := by
  have hdiv : den * (num / den) + num % den = num := Nat.div_add_mod num den
  have hmod : num % den < den := Nat.mod_lt num hd
  unfold roundQuotient
  dsimp only
  generalize num / den = q at hdiv ⊢
  generalize num % den = r at hdiv hmod ⊢
  have hle : q ≤ n := by
    rcases Nat.lt_or_ge n q with h | h
    · have hmul : den * (n + 1) ≤ den * q := Nat.mul_le_mul_left den h
      rw [Nat.mul_add, Nat.mul_comm den n] at hmul
      omega
    · exact h
  have hge : n ≤ q + 1 := by
    rcases Nat.lt_or_ge (q + 1) n with h | h
    · have hmul : den * (q + 2) ≤ den * n := Nat.mul_le_mul_left den h
      rw [Nat.mul_add, Nat.mul_comm den n] at hmul
      omega
    · exact h
  rcases Nat.lt_or_ge q n with h | h
  · obtain rfl : n = q + 1 := by omega
    rw [Nat.add_mul, Nat.mul_comm q den] at hlow hhigh hodd
    split
    · omega
    · split <;> omega
  · obtain rfl : n = q := by omega
    rw [Nat.mul_comm n den] at hlow hhigh hodd
    split
    · rfl
    · split <;> omega

/-- The quotient has the binary size that a scale asks for. -/
theorem scale_eq {num den scale : Nat} (hd : 0 < den) (hlow : 2 ^ (scale + 52) * den ≤ num)
    (hhigh : num < 2 ^ (scale + 53) * den) : (num / den).log2 - 52 = scale := by
  have hq : 2 ^ (scale + 52) ≤ num / den := (Nat.le_div_iff_mul_le hd).mpr hlow
  have hq' : num / den < 2 ^ (scale + 53) := (Nat.div_lt_iff_lt_mul hd).mpr hhigh
  have hne : num / den ≠ 0 := by
    have := Nat.two_pow_pos (scale + 52)
    omega
  have h₁ : scale + 52 ≤ (num / den).log2 := (Nat.le_log2 hne).mpr hq
  have h₂ : (num / den).log2 < scale + 53 := (Nat.log2_lt hne).mpr hq'
  omega

namespace Magnitude

/-- How far the interval of a magnitude reaches below it, in quarters of a unit. -/
def below (m : Magnitude) : Nat :=
  if m.mantissa = 2 ^ (52 : Nat) ∧ 0 < m.scale then 2 ^ m.scale else 2 * 2 ^ m.scale

theorem interval_eq (m : Magnitude) :
    m.interval = (4 * m.units - m.below, 4 * m.units + 2 * 2 ^ m.scale) := rfl

theorem below_le (m : Magnitude) : m.below ≤ 2 * 2 ^ m.scale := by
  unfold below
  split <;> omega

/-- The quotient lies in the interval of the magnitude, at an end only if the mantissa is even. -/
structure Holds (m : Magnitude) (num den : Nat) : Prop where
  low : 4 * m.units * den ≤ 4 * num + m.below * den
  high : 4 * num ≤ 4 * m.units * den + 2 * 2 ^ m.scale * den
  odd : m.mantissa % 2 = 1 → 4 * m.units * den < 4 * num + m.below * den ∧
    4 * num < 4 * m.units * den + 2 * 2 ^ m.scale * den

theorem ofParts?_eq (m : Magnitude) : ofParts? m.mantissa m.scale = some m := by
  unfold ofParts?
  rw [dif_pos ⟨m.mantissa_lt, m.normal, m.scale_le⟩]

section

variable {m : Magnitude} {num den : Nat}

theorem units_mul (m : Magnitude) (den : Nat) :
    m.units * den = m.mantissa * (den * 2 ^ m.scale) := by
  rw [units, Nat.mul_assoc, Nat.mul_comm den]

/-- On the scale of the magnitude the quotient rounds to its mantissa. -/
theorem Holds.round (h : m.Holds num den) (hd : 0 < den) :
    roundQuotient num (den * 2 ^ m.scale) = m.mantissa := by
  have hpos : 0 < den * 2 ^ m.scale := Nat.mul_pos hd (Nat.two_pow_pos _)
  have hb : m.below * den ≤ 2 * (den * 2 ^ m.scale) := by
    have hmul := Nat.mul_le_mul_right den m.below_le
    rwa [Nat.mul_assoc, Nat.mul_comm (2 ^ m.scale)] at hmul
  have hu := units_mul m den
  obtain ⟨hlow, hhigh, hodd⟩ := h
  rw [Nat.mul_assoc, hu] at hlow
  rw [Nat.mul_assoc 4, hu, Nat.mul_assoc 2, Nat.mul_comm (2 ^ m.scale)] at hhigh
  rw [Nat.mul_assoc 4, hu, Nat.mul_assoc 2, Nat.mul_comm (2 ^ m.scale)] at hodd
  apply roundQuotient_eq hpos
  · omega
  · omega
  · intro ho
    obtain ⟨hl, hh⟩ := hodd ho
    omega

/-- The quotient is below the next power of two. -/
theorem Holds.lt (h : m.Holds num den) (hd : 0 < den) : num < 2 ^ (m.scale + 53) * den := by
  have hpos : 0 < den * 2 ^ m.scale := Nat.mul_pos hd (Nat.two_pow_pos _)
  have hhigh := h.high
  rw [Nat.mul_assoc 4, units_mul, Nat.mul_assoc 2, Nat.mul_comm (2 ^ m.scale)] at hhigh
  have hmul : m.mantissa * (den * 2 ^ m.scale) ≤ (2 ^ (53 : Nat) - 1) * (den * 2 ^ m.scale) :=
    Nat.mul_le_mul_right _ (Nat.le_sub_one_of_lt m.mantissa_lt)
  rw [Nat.pow_add, Nat.mul_comm (2 ^ m.scale), Nat.mul_assoc, Nat.mul_comm _ den]
  omega

/-- A quotient below the power of two that is the magnitude rounds up to it, on the finer scale. -/
theorem Holds.round_below (h : m.Holds num den) (hd : 0 < den) {scale : Nat}
    (hs : m.scale = scale + 1) (hlt : num < 2 ^ (m.scale + 52) * den) :
    m.mantissa = 2 ^ (52 : Nat) ∧ (num / den).log2 - 52 = scale ∧
      roundQuotient num (den * 2 ^ scale) = 2 ^ (53 : Nat) := by
  have hpos : 0 < den * 2 ^ scale := Nat.mul_pos hd (Nat.two_pow_pos _)
  have hlow := h.low
  have hnormal : 2 ^ (52 : Nat) ≤ m.mantissa := by
    rcases m.normal with h0 | h0
    · omega
    · exact h0
  have hD : den * 2 ^ m.scale = 2 * (den * 2 ^ scale) := by
    rw [hs, Nat.pow_succ, Nat.mul_comm (2 ^ scale), Nat.mul_left_comm]
  have hbelow : m.below * den ≤ 2 * (den * 2 ^ m.scale) := by
    have hmul := Nat.mul_le_mul_right den m.below_le
    rwa [Nat.mul_assoc, Nat.mul_comm (2 ^ m.scale)] at hmul
  rw [Nat.mul_assoc 4, units_mul, hD] at hlow
  rw [Nat.pow_add, Nat.mul_comm (2 ^ m.scale), Nat.mul_assoc, Nat.mul_comm _ den, hD] at hlt
  rw [hD] at hbelow
  have hmantissa : m.mantissa = 2 ^ (52 : Nat) := by
    rcases Nat.eq_or_lt_of_le hnormal with h0 | h0
    · exact h0.symm
    · have hmul : (2 ^ (52 : Nat) + 1) * (2 * (den * 2 ^ scale)) ≤
          m.mantissa * (2 * (den * 2 ^ scale)) :=
        Nat.mul_le_mul_right _ h0
      omega
  have hquarter : m.below * den = 2 * (den * 2 ^ scale) := by
    rw [below, if_pos ⟨hmantissa, by omega⟩, Nat.mul_comm, hD]
  rw [hmantissa, hquarter] at hlow
  refine ⟨hmantissa, scale_eq hd ?_ ?_, roundQuotient_eq hpos ?_ ?_ ?_⟩
  · rw [Nat.pow_add, Nat.mul_comm (2 ^ scale), Nat.mul_assoc, Nat.mul_comm _ den]
    omega
  · rw [Nat.pow_add, Nat.mul_comm (2 ^ scale), Nat.mul_assoc, Nat.mul_comm _ den]
    omega
  · omega
  · omega
  · omega

end

/-- A quotient rounds to the magnitude in whose interval it lies. -/
theorem ofUnits?_eq {m : Magnitude} {num den : Nat} (hd : 0 < den) (h : m.Holds num den) :
    ofUnits? num den = some m := by
  have same (hs : (num / den).log2 - 52 = m.scale) : ofUnits? num den = some m := by
    have hne : m.mantissa ≠ 2 ^ (53 : Nat) := Nat.ne_of_lt m.mantissa_lt
    simp only [ofUnits?, hs, h.round hd, if_neg hne, ofParts?_eq]
  cases hscale : m.scale with
  | zero =>
    apply same
    have hlt : num / den < 2 ^ (53 : Nat) := by
      have hlt := h.lt hd
      rw [hscale] at hlt
      exact (Nat.div_lt_iff_lt_mul hd).mpr hlt
    rw [hscale]
    by_cases hq : num / den = 0
    · rw [hq]
      rfl
    · have hlog := (Nat.log2_lt hq).mpr hlt
      omega
  | succ scale =>
    rcases Nat.lt_or_ge num (2 ^ (m.scale + 52) * den) with hlt | hge
    · obtain ⟨hmantissa, hs, hround⟩ := h.round_below hd hscale hlt
      have hparts := ofParts?_eq m
      rw [hmantissa, hscale] at hparts
      simp only [ofUnits?, hs, hround, if_true, hparts]
    · exact same (scale_eq hd hge (h.lt hd))

theorem Holds.ofUnits_eq {m : Magnitude} {num den : Nat} (h : m.Holds num den) (hd : 0 < den)
    (negative : Bool) : Double.ofUnits negative num den = .finite negative m := by
  unfold Double.ofUnits
  rw [ofUnits?_eq hd h]

/-- A magnitude other than zero has a mantissa other than zero. -/
theorem pow_scale_le {m : Magnitude} (h : 0 < m.units) : 2 ^ m.scale ≤ m.units := by
  have hmantissa : 0 < m.mantissa := by
    rcases Nat.eq_zero_or_pos m.mantissa with h0 | h0
    · simp [units, h0] at h
    · exact h0
  exact Nat.le_mul_of_pos_left _ hmantissa

/-- The interval of a magnitude other than zero does not reach down to zero. -/
theorem below_le_units {m : Magnitude} (h : 0 < m.units) : m.below ≤ 2 * m.units := by
  have hs := pow_scale_le h
  have hb := m.below_le
  omega

end Magnitude

def decimalNum (c : Nat) (exponent : Int) : Nat := c * 10 ^ exponent.toNat * unitsPerOne

def decimalDen (exponent : Int) : Nat := 10 ^ (-exponent).toNat

theorem unitsPerOne_pos : 0 < unitsPerOne := by decide +kernel

theorem decimalDen_pos (exponent : Int) : 0 < decimalDen exponent := Nat.pow_pos (by decide)

namespace Magnitude

/-- The shortest decimal is looked for in the interval of the magnitude. -/
theorem readsBack_eq {m : Magnitude} (h : 0 < m.units) (c : Nat) (exponent : Int) :
    m.readsBack c exponent = true ↔ m.Holds (decimalNum c exponent) (decimalDen exponent) := by
  have hb := below_le_units h
  have hpoint : c * 10 ^ exponent.toNat * (4 * unitsPerOne) = 4 * decimalNum c exponent := by
    rw [decimalNum, Nat.mul_left_comm]
  have hlow : (4 * m.units - m.below) * decimalDen exponent + m.below * decimalDen exponent =
      4 * m.units * decimalDen exponent := by
    rw [← Nat.add_mul, Nat.sub_add_cancel (by omega)]
  simp only [readsBack, interval_eq, hpoint]
  rw [Nat.add_mul]
  change (if m.mantissa % 2 = 0 then
      decide ((4 * m.units - m.below) * decimalDen exponent ≤ 4 * decimalNum c exponent) &&
        decide (4 * decimalNum c exponent ≤
          4 * m.units * decimalDen exponent + 2 * 2 ^ m.scale * decimalDen exponent)
    else
      decide ((4 * m.units - m.below) * decimalDen exponent < 4 * decimalNum c exponent) &&
        decide (4 * decimalNum c exponent <
          4 * m.units * decimalDen exponent + 2 * 2 ^ m.scale * decimalDen exponent)) = true ↔ _
  by_cases ho : m.mantissa % 2 = 0
  · rw [if_pos ho, Bool.and_eq_true, decide_eq_true_eq, decide_eq_true_eq]
    constructor
    · rintro ⟨h₁, h₂⟩
      exact ⟨by omega, h₂, by omega⟩
    · rintro ⟨h₁, h₂, -⟩
      exact ⟨by omega, h₂⟩
  · rw [if_neg ho, Bool.and_eq_true, decide_eq_true_eq, decide_eq_true_eq]
    constructor
    · rintro ⟨h₁, h₂⟩
      exact ⟨by omega, by omega, fun _ => ⟨by omega, h₂⟩⟩
    · rintro ⟨-, -, h₃⟩
      obtain ⟨h₁, h₂⟩ := h₃ (by omega)
      exact ⟨by omega, h₂⟩

end Magnitude

/-- Where the power of ten of a decimal is not worked out any more. -/
def sizeLimit : Int := 400

theorem decimalDen_sizeLimit : decimalDen sizeLimit = 1 := rfl

/-- A decimal that is not far outside the range of the magnitudes is rounded as a quotient. -/
theorem ofDecimal_of_size {c : Nat} {exponent : Int} (negative : Bool) (hc : 0 < c)
    (hbig : (digitCount c : Int) + exponent ≤ sizeLimit)
    (hsmall : -sizeLimit ≤ (digitCount c : Int) + exponent) :
    Double.ofDecimal negative c exponent =
      .ofUnits negative (decimalNum c exponent) (decimalDen exponent) := by
  unfold Double.ofDecimal
  rw [if_neg (Nat.ne_of_gt hc)]
  have hbig' : ¬400 < (digitCount c : Int) + exponent := Int.not_lt.mpr hbig
  have hsmall' : ¬(digitCount c : Int) + exponent < -400 := Int.not_lt.mpr hsmall
  simp only [if_neg hbig', if_neg hsmall']
  unfold decimalNum decimalDen
  cases exponent with
  | ofNat e =>
    have hden : (-Int.ofNat e).toNat = 0 := by
      change (-(e : Int)).toNat = 0
      omega
    rw [hden]
    rfl
  | negSucc e =>
    have hnum : (Int.negSucc e).toNat = 0 := rfl
    rw [hnum, Nat.pow_zero, Nat.mul_one]
    rfl

theorem Magnitude.units_lt (m : Magnitude) {top : Nat} (h : m.scale ≤ top) :
    m.units < 2 ^ (53 : Nat) * 2 ^ top := by
  have h₁ : m.mantissa * 2 ^ m.scale < 2 ^ (53 : Nat) * 2 ^ m.scale :=
    Nat.mul_lt_mul_of_pos_right m.mantissa_lt (Nat.two_pow_pos _)
  have h₂ : 2 ^ (53 : Nat) * 2 ^ m.scale ≤ 2 ^ (53 : Nat) * 2 ^ top :=
    Nat.mul_le_mul_left _ (Nat.pow_le_pow_right (by decide) h)
  exact Nat.lt_of_lt_of_le h₁ h₂

/-- All magnitudes are below the numbers that are infinite without a closer look. -/
theorem two_units_lt (m : Magnitude) : 2 * m.units < decimalNum 1 sizeLimit := by
  have hfact : 2 * (2 ^ (53 : Nat) * 2 ^ (2045 : Nat)) ≤ decimalNum 1 sizeLimit := by decide +kernel
  have hlt := m.units_lt m.scale_le
  generalize 2 ^ (53 : Nat) * 2 ^ (2045 : Nat) = top at hfact hlt
  omega

/-- Half a unit is above the numbers that are zero without a closer look. -/
theorem two_decimalNum_lt : 2 * decimalNum 1 (-sizeLimit) < decimalDen (-sizeLimit) := by
  decide +kernel

theorem lt_pow_digitCount (n : Nat) : n < 10 ^ digitCount n :=
  (Nat.length_toDigits_le_iff (by decide) Nat.length_toDigits_pos).mp (Nat.le_refl _)

theorem pow_digitCount_le {n : Nat} (h : 0 < n) : 10 ^ (digitCount n - 1) ≤ n := by
  rcases Nat.eq_zero_or_pos (digitCount n - 1) with h0 | h0
  · rw [h0]
    exact h
  · refine Nat.le_of_not_lt fun hlt => ?_
    have hle : digitCount n ≤ digitCount n - 1 :=
      (Nat.length_toDigits_le_iff (by decide) h0).mpr hlt
    omega

end Stencil.Number
