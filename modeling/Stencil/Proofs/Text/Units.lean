import Stencil.Text.Units

/-!
Texts of characters are found again in their code units: no character is a surrogate, so the units
of one character are never taken for those of another.
-/
namespace Stencil.Text

/-- A unit that is no surrogate is a character. -/
theorem charsOfUnits?_cons {u : UInt16} (hh : isHighSurrogate u = false)
    (hl : isLowSurrogate u = false) (rest : Units) :
    charsOfUnits? (u :: rest) = (charsOfUnits? rest).map (Char.ofNat u.toNat :: ·) := by
  cases rest with
  | nil => simp [charsOfUnits?, hh, hl]
  | cons v rest => simp [charsOfUnits?, hh, hl]

theorem charsOfUnits?_pair {high low : UInt16} (hh : isHighSurrogate high = true)
    (hl : isLowSurrogate low = true) (rest : Units) :
    charsOfUnits? (high :: low :: rest) = (charsOfUnits? rest).map (charOfPair high low :: ·) := by
  simp [charsOfUnits?, hh, hl]

/-- The units of a character stand for that character. -/
theorem charsOfUnits?_unitsOfChar (c : Char) (rest : Units) :
    charsOfUnits? (unitsOfChar c ++ rest) = (charsOfUnits? rest).map (c :: ·) := by
  have hvalid : c.toNat < 0xD800 ∨ 0xDFFF < c.toNat ∧ c.toNat < 0x110000 := c.valid
  unfold unitsOfChar
  split
  case isTrue h =>
    have hn := UInt16.toNat_ofNat_of_lt' h
    rw [List.singleton_append, charsOfUnits?_cons, hn, Char.ofNat_toNat]
    · rw [isHighSurrogate, hn]
      simp
      omega
    · rw [isLowSurrogate, hn]
      simp
      omega
  case isFalse h =>
    have hhigh : 0xD800 + (c.toNat - 0x10000) / 0x400 < 0xDC00 := by omega
    have hlow : 0xDC00 + (c.toNat - 0x10000) % 0x400 < 0xE000 := by omega
    have hn := UInt16.toNat_ofNat_of_lt' (Nat.lt_trans hhigh (by decide))
    have hn' := UInt16.toNat_ofNat_of_lt' (Nat.lt_trans hlow (by decide))
    rw [List.cons_append, List.singleton_append, charsOfUnits?_pair, charOfPair, hn, hn']
    · have hc : 0x10000 + (0xD800 + (c.toNat - 0x10000) / 0x400 - 0xD800) * 0x400 +
          (0xDC00 + (c.toNat - 0x10000) % 0x400 - 0xDC00) = c.toNat := by omega
      rw [hc, Char.ofNat_toNat]
    · rw [isHighSurrogate, hn]
      simp
      omega
    · rw [isLowSurrogate, hn']
      simp
      omega

/-- A text is found again in its units. -/
theorem charsOfUnits?_unitsOfChars (s : List Char) : charsOfUnits? (unitsOfChars s) = some s := by
  induction s with
  | nil => rfl
  | cons c s ih =>
    have hcons : unitsOfChars (c :: s) = unitsOfChar c ++ unitsOfChars s := rfl
    rw [hcons, charsOfUnits?_unitsOfChar, ih]
    rfl

end Stencil.Text
