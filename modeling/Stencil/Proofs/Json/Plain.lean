import Stencil.Proofs.Json.Number

/-!
The texts of values are printable ASCII, whatever units the strings of a value hold. An escape hides
every unit that is something else, and all the rest is digits, signs and words.
-/
namespace Stencil

namespace Text

/-- The character is printable ASCII, from the space to the tilde. -/
def IsPlain (c : Char) : Prop := 0x20 ≤ c.toNat ∧ c.toNat < 0x7F

instance (c : Char) : Decidable (IsPlain c) := inferInstanceAs (Decidable (_ ∧ _))

def Plain (s : List Char) : Prop := ∀ c ∈ s, IsPlain c

instance (s : List Char) : Decidable (Plain s) := List.decidableBAll IsPlain s

@[simp] theorem plain_nil : Plain [] := List.forall_mem_nil _

@[simp] theorem plain_cons {c : Char} {s : List Char} : Plain (c :: s) ↔ IsPlain c ∧ Plain s :=
  List.forall_mem_cons

@[simp] theorem plain_append {s t : List Char} : Plain (s ++ t) ↔ Plain s ∧ Plain t :=
  List.forall_mem_append

theorem plain_ite {p : Prop} [Decidable p] {s t : List Char} (hs : Plain s) (ht : Plain t) :
    Plain (if p then s else t) := by
  split
  · exact hs
  · exact ht

end Text

namespace Json

open Number Text

section Strings

theorem isPlain_hexDigit : ∀ n < 16, IsPlain (hexDigit n) := by decide

theorem isPlain_ofNat : ∀ n < 0x7F, 0x20 ≤ n → IsPlain (Char.ofNat n) := by decide

/-- Every unit has a plain text, a surrogate too. -/
theorem plain_escapeUnit (u : UInt16) : Plain (escapeUnit u) := by
  have hu : u.toNat < 0x10000 := u.toNat_lt
  have hhex (n : Nat) (hn : n < 16) := isPlain_hexDigit n hn
  unfold escapeUnit
  dsimp only
  iterate 7
    split
    · decide
  split
  case isTrue h => simpa using isPlain_ofNat u.toNat h.2 h.1
  case isFalse =>
    simp only [plain_cons, plain_nil, and_true]
    exact ⟨by decide, by decide, hhex _ (by omega), hhex _ (by omega), hhex _ (by omega),
      hhex _ (by omega)⟩

theorem plain_writeText (s : Units) : Plain (writeText s) := by
  have hunits : Plain (s.flatMap escapeUnit) := by
    intro c hc
    obtain ⟨u, -, hu⟩ := List.mem_flatMap.mp hc
    exact plain_escapeUnit u c hu
  have hquote : IsPlain '"' := by decide
  simp [writeText, hunits, hquote]

end Strings

section Numbers

theorem Digits.plain {digits : List Char} (h : Digits digits) : Plain digits := by
  intro c hc
  have hdigit := h c hc
  simp only [Char.isDigit, Bool.and_eq_true, decide_eq_true_eq, ge_iff_le,
    UInt32.le_iff_toNat_le] at hdigit
  have hlow : 48 ≤ c.toNat := hdigit.1
  have hhigh : c.toNat ≤ 57 := hdigit.2
  exact ⟨by omega, by omega⟩

theorem plain_sign (negative : Prop) [Decidable negative] :
    Plain (if negative then ['-'] else []) :=
  plain_ite (by decide) plain_nil

theorem plain_writeInteger (n : Int) : Plain (writeInteger n) :=
  plain_append.mpr ⟨plain_sign _, (digits_toDigits n.natAbs).plain⟩

theorem plain_decimalText {digits : List Char} (hd : Digits digits) (e : Int) :
    Plain (decimalText digits e) := by
  have hdigits := hd.plain
  have hpoint : IsPlain '.' := by decide
  have hzero : IsPlain '0' := by decide
  have hzeros (k : Nat) : Plain (List.replicate k '0') := (digits_zeros k).plain
  have htake (k : Nat) : Plain (digits.take k) := fun c hc => hdigits c (List.mem_of_mem_take hc)
  have hdrop (k : Nat) : Plain (digits.drop k) := fun c hc => hdigits c (List.mem_of_mem_drop hc)
  unfold decimalText
  split
  case isTrue =>
    split
    · simp [hzero, hpoint, hdigits, hzeros]
    · dsimp only
      split <;> simp [hzero, hpoint, htake, hdrop, hzeros]
  case isFalse =>
    have hexponent : Plain (Nat.toDigits 10 e.natAbs) := (digits_toDigits e.natAbs).plain
    have hletter : IsPlain 'e' := by decide
    have hsign : IsPlain (if e < 0 then '-' else '+') := by split <;> decide
    have hpart : Plain (if digits.length ≤ 1 then [] else '.' :: digits.drop 1) :=
      plain_ite plain_nil (plain_cons.mpr ⟨hpoint, hdrop 1⟩)
    have hpad : Plain (if (Nat.toDigits 10 e.natAbs).length < 2 then ['0'] else []) :=
      plain_ite (by decide) plain_nil
    simp only [plain_append, plain_cons, plain_nil, and_true]
    exact ⟨⟨⟨⟨htake 1, hpart⟩, hletter, hsign⟩, hpad⟩, hexponent⟩

theorem plain_magnitude (m : Magnitude) : Plain m.text := by
  unfold Magnitude.text
  split
  · decide
  · exact plain_decimalText (stripZeros_digits (digits_toDigits _)) _

theorem plain_writeNumber (x : Double) : Plain (writeNumber x) := by
  cases x with
  | nan => decide
  | infinite negative => cases negative <;> decide
  | finite negative m => exact plain_append.mpr ⟨plain_sign _, plain_magnitude m⟩

end Numbers

section Values

mutual

theorem plain_write (v : Json) : Plain v.write := by
  match v with
  | .null => decide
  | .bool true => decide
  | .bool false => decide
  | .integer n => exact plain_writeInteger n
  | .number x => exact plain_writeNumber x
  | .text s => exact plain_writeText s
  | .list items =>
    have hopen : IsPlain '[' := by decide
    have hclose : IsPlain ']' := by decide
    simp [write, hopen, hclose, plain_writeItems items]
  | .object fields =>
    have hopen : IsPlain '{' := by decide
    have hclose : IsPlain '}' := by decide
    simp [write, hopen, hclose, plain_writeFields fields]

theorem plain_writeItems (items : List Json) : Plain (writeItems items) := by
  have hcomma : IsPlain ',' := by decide
  match items with
  | [] => exact plain_nil
  | [v] => exact plain_write v
  | v :: next :: rest =>
    simp [writeItems, hcomma, plain_write v, plain_writeItems (next :: rest)]

theorem plain_writeFields (fields : List (Units × Json)) : Plain (writeFields fields) := by
  have hcomma : IsPlain ',' := by decide
  have hcolon : IsPlain ':' := by decide
  match fields with
  | [] => exact plain_nil
  | [(name, v)] => simp [writeFields, hcolon, plain_writeText name, plain_write v]
  | (name, v) :: next :: rest =>
    simp [writeFields, hcomma, hcolon, plain_writeText name, plain_write v,
      plain_writeFields (next :: rest)]

end

end Values

end Json

end Stencil
