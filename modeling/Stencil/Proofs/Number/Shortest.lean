import Stencil.Proofs.Number.Rounding

/-!
The search for the shortest decimal. A grid finer than the interval has a point in it next to the
magnitude, so the search ends on such a grid at the latest; what it ends with reads back.
-/
namespace Stencil.Number

attribute [local instance (high)] instPowNat

namespace Magnitude

theorem readsBack_of_neighbour {m : Magnitude} {exponent : Int} {c : Nat}
    (h : m.neighbour? exponent = some c) : m.readsBack c exponent = true := by
  unfold neighbour? at h
  dsimp only at h
  split at h
  case isTrue hc =>
    cases h
    exact (Bool.and_eq_true_iff.mp hc).1
  case isFalse =>
    split at h
    · cases h
      assumption
    · cases h

/-- The grid has a point in the interval next to the magnitude. -/
theorem neighbour?_isSome {m : Magnitude} {exponent : Int} {c : Nat}
    (hc : c = 4 * m.units * decimalDen exponent / (4 * decimalNum 1 exponent))
    (h : m.readsBack c exponent = true ∨ m.readsBack (c + 1) exponent = true) :
    (m.neighbour? exponent).isSome := by
  have hcell : 10 ^ exponent.toNat * (4 * unitsPerOne) = 4 * decimalNum 1 exponent := by
    rw [decimalNum, Nat.one_mul, Nat.mul_left_comm]
  unfold neighbour?
  dsimp only
  rw [hcell, show 10 ^ (-exponent).toNat = decimalDen exponent from rfl, ← hc]
  split
  · rfl
  case isFalse hn =>
    split
    · rfl
    · rcases h with h | h
      · simp_all
      · contradiction

/-- Half a cell is less than the interval reaches to either side. -/
theorem neighbour?_isSome_of_fine {m : Magnitude} (hm : 0 < m.units) {exponent : Int}
    (hfine : 4 * decimalNum 1 exponent < 2 * (m.below * decimalDen exponent)) :
    (m.neighbour? exponent).isSome := by
  have hnum (c : Nat) : decimalNum c exponent = c * decimalNum 1 exponent := by
    simp only [decimalNum, Nat.one_mul, Nat.mul_assoc]
  have hbelow : m.below * decimalDen exponent ≤ 2 * 2 ^ m.scale * decimalDen exponent :=
    Nat.mul_le_mul_right _ m.below_le
  apply neighbour?_isSome rfl
  rw [readsBack_eq hm, readsBack_eq hm]
  have hpos : 0 < decimalNum 1 exponent := by
    rw [decimalNum, Nat.one_mul]
    exact Nat.mul_pos (Nat.pow_pos (by decide)) unitsPerOne_pos
  have hdiv := Nat.div_add_mod (4 * m.units * decimalDen exponent) (4 * decimalNum 1 exponent)
  have hmod := Nat.mod_lt (4 * m.units * decimalDen exponent)
    (show 0 < 4 * decimalNum 1 exponent by omega)
  generalize 4 * m.units * decimalDen exponent / (4 * decimalNum 1 exponent) = c at hdiv ⊢
  generalize 4 * m.units * decimalDen exponent % (4 * decimalNum 1 exponent) = r at hdiv hmod
  have hc : 4 * decimalNum c exponent + r = 4 * m.units * decimalDen exponent := by
    rw [hnum c, Nat.mul_left_comm, Nat.mul_comm c, ← hdiv]
  have hsucc : decimalNum (c + 1) exponent = decimalNum c exponent + decimalNum 1 exponent := by
    rw [hnum (c + 1), Nat.add_mul, Nat.one_mul, ← hnum c]
  rcases Nat.lt_or_ge (4 * decimalNum 1 exponent) (2 * r) with hr | hr
  · refine .inr ⟨?_, ?_, fun _ => ⟨?_, ?_⟩⟩ <;> omega
  · refine .inl ⟨?_, ?_, fun _ => ⟨?_, ?_⟩⟩ <;> omega

/-- The search ends with a decimal that reads back, if some grid on its way has one. -/
theorem readsBack_shortestFrom {m : Magnitude} (more : Nat) (exponent : Int)
    (h : (m.neighbour? (exponent - more)).isSome) :
    m.readsBack (m.shortestFrom more exponent).1 (m.shortestFrom more exponent).2 = true := by
  induction more generalizing exponent with
  | zero =>
    rw [Int.natCast_zero, Int.sub_zero] at h
    obtain ⟨c, hc⟩ := Option.isSome_iff_exists.mp h
    simp only [shortestFrom, hc, Option.getD_some]
    exact readsBack_of_neighbour hc
  | succ more ih =>
    cases hn : m.neighbour? exponent with
    | some c =>
      simp only [shortestFrom, hn]
      exact readsBack_of_neighbour hn
    | none =>
      simp only [shortestFrom, hn]
      apply ih
      rw [show exponent - 1 - more = exponent - (more + 1 : Nat) by omega]
      exact h

theorem units_le_below (m : Magnitude) : m.units ≤ m.below * 2 ^ (52 : Nat) := by
  unfold below
  split
  case isTrue h =>
    apply Nat.le_of_eq
    rw [units, h.1, Nat.mul_comm]
  case isFalse =>
    have hlt := m.units_lt (Nat.le_refl _)
    omega

/-- The power of ten of the leading digit is not above the magnitude. -/
theorem leading_le {m : Magnitude} (hm : 0 < m.units) :
    ∃ count : Nat, m.leadingExponent = -sizeLimit + count ∧
      decimalNum (10 ^ count) (-sizeLimit) ≤ m.units * decimalDen (-sizeLimit) := by
  have hunit : unitsPerOne ≤ 10 ^ (400 : Nat) := by decide +kernel
  have hpos : 0 < m.units * 10 ^ (400 : Nat) / unitsPerOne := by
    apply Nat.div_pos _ unitsPerOne_pos
    exact Nat.le_trans hunit (Nat.le_mul_of_pos_left _ hm)
  have hpow := Nat.mul_le_mul_right unitsPerOne (pow_digitCount_le hpos)
  have hdiv := Nat.div_mul_le_self (m.units * 10 ^ (400 : Nat)) unitsPerOne
  have hnum (c : Nat) : decimalNum c (-sizeLimit) = c * unitsPerOne := by
    rw [decimalNum, show (-sizeLimit).toNat = 0 from rfl, Nat.pow_zero, Nat.mul_one]
  have hden : decimalDen (-sizeLimit) = 10 ^ (400 : Nat) := by decide +kernel
  have hcount : 0 < digitCount (m.units * 10 ^ (400 : Nat) / unitsPerOne) := Nat.length_toDigits_pos
  refine ⟨digitCount (m.units * 10 ^ (400 : Nat) / unitsPerOne) - 1, ?_, ?_⟩
  · unfold leadingExponent
    generalize digitCount (m.units * 10 ^ (400 : Nat) / unitsPerOne) = count at hcount ⊢
    simp only [sizeLimit]
    omega
  · rw [hnum, hden]
    exact Nat.le_trans hpow hdiv

end Magnitude

end Stencil.Number
