import Stencil.Json.Reader
import Stencil.Json.Writer

/-!
Strings read back from their texts, unit by unit: no unit is written with a quotation mark of its
own, so a string ends where its text ends.
-/
namespace Stencil.Json

open Text

theorem hexValue?_hexDigit : ∀ n < 16, hexValue? (hexDigit n) = some n := by decide

theorem toNat_ofNat_ascii : ∀ n < 0x80, (Char.ofNat n).toNat = n := by decide

/-- An escape of four digits is read as its unit. -/
theorem readText_hex (u : UInt16) (t : List Char) :
    readText ('\\' :: 'u' :: hexDigit (u.toNat / 0x1000) :: hexDigit (u.toNat / 0x100 % 16) ::
        hexDigit (u.toNat / 16 % 16) :: hexDigit (u.toNat % 16) :: t) =
      (readText t).map fun p => (u :: p.1, p.2) := by
  have hlt : u.toNat < 0x10000 := u.toNat_lt
  have hu : UInt16.ofNat ((u.toNat / 0x1000 * 16 + u.toNat / 0x100 % 16) * 256 +
      u.toNat / 16 % 16 * 16 + u.toNat % 16) = u := by
    have hn : (u.toNat / 0x1000 * 16 + u.toNat / 0x100 % 16) * 256 + u.toNat / 16 % 16 * 16 +
        u.toNat % 16 = u.toNat := by omega
    rw [hn, UInt16.ofNat_toNat]
  rw [readText, hexValue?_hexDigit _ (by omega), hexValue?_hexDigit _ (by omega),
    hexValue?_hexDigit _ (by omega), hexValue?_hexDigit _ (by omega)]
  simp only [Option.bind_eq_bind, Option.bind_some, hu]
  cases readText t <;> rfl

/-- A character that is neither a quotation mark nor a backslash is read as itself. -/
theorem readText_char {c : Char} (hq : c ≠ '"') (hb : c ≠ '\\') (t : List Char) :
    readText (c :: t) = (readText t).map fun p => (unitsOfChar c ++ p.1, p.2) := by
  rw [readText]
  · cases readText t <;> rfl
  · simpa using hq
  · intros
    simp_all
  · intros
    simp_all

/-- An escape of one letter is read as its unit. -/
theorem readText_short {e : Char} {u : UInt16} (he : shortEscape? e = some u) (t : List Char) :
    readText ('\\' :: e :: t) = (readText t).map fun p => (u :: p.1, p.2) := by
  have hu : e ≠ 'u' := by
    rintro rfl
    cases he
  rw [readText, he]
  · simp only [Option.bind_eq_bind, Option.bind_some]
    cases readText t <;> rfl
  · intros
    simp_all

/-- One unit is read back, and what follows it is left. -/
theorem readText_escapeUnit (u : UInt16) (t : List Char) :
    readText (escapeUnit u ++ t) = (readText t).map fun p => (u :: p.1, p.2) := by
  have short {e : Char} {n : Nat} (he : shortEscape? e = some (UInt16.ofNat n))
      (hn : u.toNat = n) :
      readText (['\\', e] ++ t) = (readText t).map fun p => (u :: p.1, p.2) := by
    rw [← hn, UInt16.ofNat_toNat] at he
    exact readText_short he t
  unfold escapeUnit
  dsimp only
  split
  case isTrue h => exact short rfl h
  split
  case isTrue h => exact short rfl h
  split
  case isTrue h => exact short rfl h
  split
  case isTrue h => exact short rfl h
  split
  case isTrue h => exact short rfl h
  split
  case isTrue h => exact short rfl h
  split
  case isTrue h => exact short rfl h
  split
  case isTrue hq hb _ _ _ _ _ h =>
    have hc := toNat_ofNat_ascii u.toNat (by omega)
    have hunits : unitsOfChar (Char.ofNat u.toNat) = [u] := by
      rw [unitsOfChar, if_pos (by omega), hc, UInt16.ofNat_toNat]
    rw [List.singleton_append, readText_char, hunits]
    · rfl
    · intro h
      rw [h] at hc
      exact hq hc.symm
    · intro h
      rw [h] at hc
      exact hb hc.symm
  case isFalse => exact readText_hex u t

/-- A string is read back up to its closing quotation mark. -/
theorem readText_writeText (s : Units) (rest : List Char) :
    readText (s.flatMap escapeUnit ++ '"' :: rest) = some (s, rest) := by
  induction s with
  | nil => simp [readText]
  | cons u s ih =>
    rw [List.flatMap_cons, List.append_assoc, readText_escapeUnit, ih]
    rfl

end Stencil.Json
