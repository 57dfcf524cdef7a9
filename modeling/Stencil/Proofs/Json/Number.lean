import Stencil.Json.Reader
import Stencil.Json.Writer
import Stencil.Proofs.Number.Decimal

/-!
Numbers read back from their texts. Whatever way a decimal is written, with or without an exponent,
the reader finds digits and a power of ten of the same value, and stops where the number ends.
-/
namespace Stencil.Json

open Number

section Digits

def Digits (ds : List Char) : Prop := ∀ c ∈ ds, c.isDigit = true

/-- What follows a number does not go on with it. -/
def Ends (rest : List Char) : Prop :=
  ∀ c ∈ rest.head?, c.isDigit = false ∧ c ≠ '.' ∧ c ≠ 'e' ∧ c ≠ 'E'

theorem digits_append {a b : List Char} (ha : Digits a) (hb : Digits b) : Digits (a ++ b) := by
  intro c hc
  rcases List.mem_append.mp hc with hc | hc
  · exact ha c hc
  · exact hb c hc

theorem digits_zeros (k : Nat) : Digits (List.replicate k '0') := by
  intro c hc
  rw [List.eq_of_mem_replicate hc]
  rfl

theorem digits_toDigits (n : Nat) : Digits (Nat.toDigits 10 n) := by
  intro c hc
  exact Nat.isDigit_of_mem_toDigits (by decide) (by decide) hc

theorem digitsValue_eq (ds : List Char) : digitsValue ds = Nat.ofDigitChars 10 ds 0 := by
  simp only [digitsValue, Nat.ofDigitChars, Nat.mul_comm 10]
  rfl

theorem digitsValue_append (a b : List Char) :
    digitsValue (a ++ b) = digitsValue a * 10 ^ b.length + digitsValue b := by
  simp only [digitsValue_eq, Nat.ofDigitChars_append]
  rw [Nat.ofDigitChars_eq_ofDigitChars_zero, Nat.mul_comm]

theorem digitsValue_toDigits (n : Nat) : digitsValue (Nat.toDigits 10 n) = n := by
  rw [digitsValue_eq, Nat.ofDigitChars_ten_toDigits]

theorem digitsValue_zeros (k : Nat) : digitsValue (List.replicate k '0') = 0 := by
  rw [digitsValue_eq, Nat.ofDigitChars_replicate_zero, Nat.mul_zero]

/-- Zeros in front do not count. -/
theorem digitsValue_zeros_append (k : Nat) (ds : List Char) :
    digitsValue (List.replicate k '0' ++ ds) = digitsValue ds := by
  rw [digitsValue_append, digitsValue_zeros, Nat.zero_mul, Nat.zero_add]

/-- Digits are taken up to what follows them. -/
theorem takeDigits_append {ds rest : List Char} (hd : Digits ds)
    (hr : ∀ c ∈ rest.head?, c.isDigit = false) : takeDigits (ds ++ rest) = (ds, rest) := by
  have htake : rest.takeWhile Char.isDigit = [] := by
    cases rest with
    | nil => rfl
    | cons c rest => simp [hr c rfl]
  have hdrop : rest.dropWhile Char.isDigit = rest := by
    cases rest with
    | nil => rfl
    | cons c rest => simp [hr c rfl]
  rw [takeDigits, List.span_eq_takeWhile_dropWhile, List.takeWhile_append_of_pos hd,
    List.dropWhile_append_of_pos hd, htake, hdrop, List.append_nil]

end Digits

section Reading

variable {rest : List Char}

theorem readFraction_none (h : ∀ c ∈ rest.head?, c ≠ '.') : readFraction rest = ([], rest) := by
  cases rest with
  | nil => rfl
  | cons c rest =>
    have hc : c ≠ '.' := h c rfl
    unfold readFraction
    split
    · simp_all
    · rfl

theorem readFraction_some {ds : List Char} (hd : Digits ds) (hne : ds ≠ [])
    (hr : ∀ c ∈ rest.head?, c.isDigit = false) : readFraction ('.' :: ds ++ rest) = (ds, rest) := by
  cases ds with
  | nil => contradiction
  | cons d ds =>
    have htake := takeDigits_append hd hr
    rw [List.cons_append] at htake
    simp only [List.cons_append, readFraction, htake]

theorem readExponent_none (h : ∀ c ∈ rest.head?, c ≠ 'e' ∧ c ≠ 'E') :
    readExponent rest = (none, rest) := by
  cases rest with
  | nil => rfl
  | cons c rest =>
    have hc := h c rfl
    simp [readExponent, hc.1, hc.2]

theorem readExponent_some {ds : List Char} (hd : Digits ds) (hne : ds ≠ [])
    (hr : ∀ c ∈ rest.head?, c.isDigit = false) (negative : Bool) :
    readExponent ('e' :: (if negative then '-' else '+') :: ds ++ rest) =
      (some (if negative then -(digitsValue ds : Int) else digitsValue ds), rest) := by
  cases ds with
  | nil => contradiction
  | cons d ds =>
    have hsign : readSign ((if negative then '-' else '+') :: (d :: ds ++ rest)) =
        (negative, d :: ds ++ rest) := by cases negative <;> rfl
    have htake := takeDigits_append hd hr
    rw [List.cons_append] at hsign htake
    simp [readExponent, hsign, htake]

/-- A number by its parts: digits, a fraction that may be missing, and an exponent that may be
missing. -/
theorem readNumber_of_parts {s whole after fraction later last : List Char} {exponent : Option Int}
    (negative : Bool) (hwhole : takeDigits s = (whole, after)) (hne : whole ≠ [])
    (hfraction : readFraction after = (fraction, later))
    (hexponent : readExponent later = (exponent, last)) :
    readNumber negative s =
      some (if fraction.isEmpty && exponent.isNone then
          .integer (if negative then -(digitsValue whole : Int) else digitsValue whole)
        else .number (.ofDecimal negative (digitsValue (whole ++ fraction))
          (exponent.getD 0 - fraction.length)), last) := by
  cases whole with
  | nil => contradiction
  | cons c whole =>
    simp only [readNumber, hwhole, hfraction, hexponent]
    split <;> rfl

end Reading

section Texts

variable {rest : List Char}

theorem Ends.digit (h : Ends rest) : ∀ c ∈ rest.head?, c.isDigit = false := fun c hc => (h c hc).1

theorem Ends.exponent (h : Ends rest) : ∀ c ∈ rest.head?, c ≠ 'e' ∧ c ≠ 'E' := fun c hc =>
  (h c hc).2.2

/-- A whole number is read back. -/
theorem readNumber_toDigits (negative : Bool) (n : Nat) (hr : Ends rest) :
    readNumber negative (Nat.toDigits 10 n ++ rest) =
      some (.integer (if negative then -(n : Int) else n), rest) := by
  have htake := takeDigits_append (digits_toDigits n) hr.digit
  have hpoint : ∀ c ∈ rest.head?, c ≠ '.' := fun c hc => (hr c hc).2.1
  rw [readNumber_of_parts negative htake Nat.toDigits_ne_nil (readFraction_none hpoint)
    (readExponent_none hr.exponent), digitsValue_toDigits]
  rfl

/-- A positional text is read as its digits, with the point moved behind them. -/
theorem readNumber_positional (negative : Bool) {whole fraction : List Char} (hw : Digits whole)
    (hwn : whole ≠ []) (hf : Digits fraction) (hfn : fraction ≠ []) (hr : Ends rest) :
    readNumber negative (whole ++ '.' :: fraction ++ rest) =
      some (.number (.ofDecimal negative (digitsValue (whole ++ fraction)) (-fraction.length)),
        rest) := by
  have htake : takeDigits (whole ++ ('.' :: fraction ++ rest)) =
      (whole, '.' :: fraction ++ rest) := by
    apply takeDigits_append hw
    intro c hc
    cases hc
    rfl
  have hempty : fraction.isEmpty = false := by simpa using hfn
  rw [List.append_assoc, readNumber_of_parts negative htake hwn
    (readFraction_some hf hfn hr.digit) (readExponent_none hr.exponent), hempty]
  simp

/-- A text with an exponent is read as its digits, with the point moved behind them. -/
theorem readNumber_scientific (negative below : Bool) {first : Char} {fraction ds : List Char}
    (h₁ : first.isDigit = true) (hf : Digits fraction) (hd : Digits ds) (hne : ds ≠ [])
    (hr : Ends rest) :
    readNumber negative (first :: (if fraction = [] then [] else '.' :: fraction) ++
        ('e' :: (if below then '-' else '+') :: ds) ++ rest) =
      some (.number (.ofDecimal negative (digitsValue (first :: fraction))
        ((if below then -(digitsValue ds : Int) else digitsValue ds) - fraction.length)),
        rest) := by
  have hexponent := readExponent_some hd hne hr.digit below
  generalize hlater : 'e' :: (if below then '-' else '+') :: ds ++ rest = later at hexponent
  have hlater' : ∀ c ∈ later.head?, c = 'e' := by
    intro c hc
    rw [← hlater] at hc
    cases hc
    rfl
  have hone : Digits [first] := by
    intro c hc
    rw [List.mem_singleton.mp hc]
    exact h₁
  have hpoint : ∀ c ∈ later.head?, c ≠ '.' := by
    intro c hc
    rw [hlater' c hc]
    decide
  have hdigit : ∀ c ∈ later.head?, c.isDigit = false := by
    intro c hc
    rw [hlater' c hc]
    decide
  rw [List.append_assoc, hlater]
  cases fraction with
  | nil =>
    have htake := takeDigits_append hone hdigit
    rw [List.singleton_append] at htake
    rw [if_pos rfl, List.cons_append, List.nil_append]
    rw [readNumber_of_parts negative htake (by simp) (readFraction_none hpoint) hexponent]
    simp
  | cons d fraction =>
    have htake : takeDigits ([first] ++ ('.' :: d :: fraction ++ later)) =
        ([first], '.' :: d :: fraction ++ later) := by
      apply takeDigits_append hone
      intro c hc
      cases hc
      rfl
    rw [if_neg (by simp), List.cons_append]
    rw [List.singleton_append] at htake
    rw [readNumber_of_parts negative htake (by simp) (readFraction_some hf (by simp) hdigit)
      hexponent]
    simp

theorem stripZeros_append (digits : List Char) :
    ∃ k, digits = stripZeros digits ++ List.replicate k '0' := by
  induction digits with
  | nil => exact ⟨0, rfl⟩
  | cons c rest ih =>
    obtain ⟨k, hk⟩ := ih
    cases hs : stripZeros rest with
    | nil =>
      rw [hs, List.nil_append] at hk
      by_cases hc : c = '0'
      · refine ⟨k + 1, ?_⟩
        simp only [stripZeros, hs, hc, if_true, List.nil_append, List.replicate_succ, ← hk]
      · exact ⟨k, by simp [stripZeros, hs, hc, ← hk]⟩
    | cons d kept =>
      rw [hs] at hk
      exact ⟨k, by simp [stripZeros, hs, ← hk]⟩

/-- The text is read as a decimal of this value. -/
def ReadsAs (negative : Bool) (text : List Char) (x : ℚ) : Prop :=
  ∀ rest, Ends rest → ∃ c exponent, readNumber negative (text ++ rest) =
    some (.number (.ofDecimal negative c exponent), rest) ∧ decimalUnits c exponent = x

section DecimalText

variable {digits : List Char} {e : Int}

/-- The value of digits with the point behind the first one. -/
def scientific (digits : List Char) (e : Int) : ℚ :=
  decimalUnits (digitsValue digits) (e - (digits.length - 1 : Nat))

theorem readsAs_below (negative : Bool) (hd : Digits digits) (hne : digits ≠ []) (he : e < 0) :
    ReadsAs negative (['0', '.'] ++ List.replicate (-e - 1).toNat '0' ++ digits)
      (scientific digits e) := by
  intro rest hr
  have hlength : 0 < digits.length := List.length_pos_iff.mpr hne
  have hfraction : List.replicate (-e - 1).toNat '0' ++ digits ≠ [] := by simp [hne]
  have hread := readNumber_positional negative (digits_zeros 1) (by simp)
    (digits_append (digits_zeros (-e - 1).toNat) hd) hfraction hr
  have htext : ['0', '.'] ++ List.replicate (-e - 1).toNat '0' ++ digits ++ rest =
      List.replicate 1 '0' ++ '.' :: (List.replicate (-e - 1).toNat '0' ++ digits) ++ rest := by
    simp
  rw [htext, hread]
  refine ⟨_, _, rfl, ?_⟩
  rw [digitsValue_zeros_append, digitsValue_zeros_append, scientific]
  congr 1
  simp only [List.length_append, List.length_replicate]
  omega

theorem readsAs_above (negative : Bool) (hd : Digits digits) (hne : digits ≠ []) (he : 0 ≤ e) :
    ReadsAs negative (digits.take (e.toNat + 1) ++
        List.replicate (e.toNat + 1 - (digits.take (e.toNat + 1)).length) '0' ++ ['.'] ++
        (if (digits.drop (e.toNat + 1)).isEmpty then ['0'] else digits.drop (e.toNat + 1)))
      (scientific digits e) := by
  intro rest hr
  have hlength : 0 < digits.length := List.length_pos_iff.mpr hne
  generalize hn : e.toNat + 1 = n
  by_cases hfit : digits.length ≤ n
  · rw [List.take_of_length_le hfit, List.drop_eq_nil_of_le hfit, if_pos List.isEmpty_nil]
    have hwhole := digits_append hd (digits_zeros (n - digits.length))
    have hread := readNumber_positional negative hwhole (by simp [hne]) (digits_zeros 1)
      (by simp) hr
    have htext : digits ++ List.replicate (n - digits.length) '0' ++ ['.'] ++ ['0'] ++ rest =
        digits ++ List.replicate (n - digits.length) '0' ++
          '.' :: List.replicate 1 '0' ++ rest := by
      simp
    rw [htext, hread]
    refine ⟨_, _, rfl, ?_⟩
    rw [digitsValue_append, digitsValue_append, digitsValue_zeros, digitsValue_zeros, Nat.add_zero,
      Nat.add_zero, List.length_replicate, List.length_replicate, Nat.mul_assoc, ← Nat.pow_add]
    have hshift := decimalUnits_shift (digitsValue digits) (n - digits.length + 1)
      (e - (digits.length - 1 : Nat))
    rw [scientific, ← hshift]
    congr 1
    omega
  · have hnonempty : (digits.drop n).isEmpty = false := by
      simp only [List.isEmpty_eq_false_iff, ne_eq, List.drop_eq_nil_iff]
      omega
    have htake : (digits.take n).length = n := by
      rw [List.length_take]
      omega
    have hwhole : Digits (digits.take n) := fun c hc => hd c (List.mem_of_mem_take hc)
    have hfraction : Digits (digits.drop n) := fun c hc => hd c (List.mem_of_mem_drop hc)
    have hne' : digits.take n ≠ [] := by
      intro h
      rw [h, List.length_nil] at htake
      omega
    have hread := readNumber_positional negative hwhole hne' hfraction
      (List.isEmpty_eq_false_iff.mp hnonempty) hr
    rw [hnonempty, htake, Nat.sub_self, List.replicate_zero, List.append_nil]
    have htext : digits.take n ++ ['.'] ++ (if false = true then ['0'] else digits.drop n) ++ rest =
        digits.take n ++ '.' :: digits.drop n ++ rest := by simp
    rw [htext, hread]
    refine ⟨_, _, rfl, ?_⟩
    rw [List.take_append_drop, scientific]
    congr 1
    rw [List.length_drop]
    omega

theorem readsAs_exponent (negative : Bool) (hd : Digits digits) (hne : digits ≠ []) :
    ReadsAs negative (digits.take 1 ++ (if digits.length ≤ 1 then [] else '.' :: digits.drop 1) ++
        ['e', if e < 0 then '-' else '+'] ++
        (if (Nat.toDigits 10 e.natAbs).length < 2 then ['0'] else []) ++ Nat.toDigits 10 e.natAbs)
      (scientific digits e) := by
  intro rest hr
  obtain ⟨first, fraction, rfl⟩ := List.exists_cons_of_ne_nil hne
  have hfirst : first.isDigit = true := hd first List.mem_cons_self
  have hfraction : Digits fraction := fun c hc => hd c (List.mem_cons_of_mem first hc)
  generalize hpad : (if (Nat.toDigits 10 e.natAbs).length < 2 then ['0'] else []) = pad
  have hpadded : pad ++ Nat.toDigits 10 e.natAbs =
      List.replicate pad.length '0' ++ Nat.toDigits 10 e.natAbs := by
    rw [← hpad]
    split <;> rfl
  have hds : Digits (pad ++ Nat.toDigits 10 e.natAbs) := by
    rw [hpadded]
    exact digits_append (digits_zeros _) (digits_toDigits _)
  have hread := readNumber_scientific negative (decide (e < 0)) hfirst hfraction hds (by simp) hr
  have hvalue : digitsValue (pad ++ Nat.toDigits 10 e.natAbs) = e.natAbs := by
    rw [hpadded, digitsValue_zeros_append, digitsValue_toDigits]
  have htext : (first :: fraction).take 1 ++ (if (first :: fraction).length ≤ 1 then []
        else '.' :: (first :: fraction).drop 1) ++ ['e', if e < 0 then '-' else '+'] ++ pad ++
        Nat.toDigits 10 e.natAbs ++ rest =
      first :: (if fraction = [] then [] else '.' :: fraction) ++
        ('e' :: (if decide (e < 0) = true then '-' else '+') ::
          (pad ++ Nat.toDigits 10 e.natAbs)) ++ rest := by
    cases fraction <;> simp
  rw [htext, hread]
  refine ⟨_, _, rfl, ?_⟩
  rw [scientific, hvalue]
  congr 1
  simp only [List.length_cons, Nat.add_sub_cancel, decide_eq_true_eq]
  split <;> omega

/-- A decimal text is read as a decimal of the value that it shows. -/
theorem readsAs_decimalText (negative : Bool) (hd : Digits digits) (hne : digits ≠ []) :
    ReadsAs negative (decimalText digits e) (scientific digits e) := by
  unfold decimalText
  split
  · split
    case isTrue he => exact readsAs_below negative hd hne he
    case isFalse he => exact readsAs_above negative hd hne (Int.not_lt.mp he)
  · exact readsAs_exponent negative hd hne

/-- Zeros at the end of the digits do not matter. -/
theorem scientific_stripZeros {c : Nat} (hc : 0 < c) (exponent : Int) :
    stripZeros (Nat.toDigits 10 c) ≠ [] ∧
      scientific (stripZeros (Nat.toDigits 10 c))
        (exponent + ((Nat.toDigits 10 c).length - 1 : Nat)) = decimalUnits c exponent := by
  obtain ⟨k, hk⟩ := stripZeros_append (Nat.toDigits 10 c)
  have hvalue := digitsValue_toDigits c
  rw [hk, digitsValue_append, digitsValue_zeros, Nat.add_zero, List.length_replicate] at hvalue
  have hlength : (Nat.toDigits 10 c).length = (stripZeros (Nat.toDigits 10 c)).length + k := by
    conv => lhs; rw [hk]
    simp
  have hne : stripZeros (Nat.toDigits 10 c) ≠ [] := by
    intro h
    rw [h] at hvalue
    simp [digitsValue] at hvalue
    omega
  have hpos := List.length_pos_iff.mpr hne
  refine ⟨hne, ?_⟩
  generalize stripZeros (Nat.toDigits 10 c) = kept at hvalue hlength hpos ⊢
  have hshift := decimalUnits_shift (digitsValue kept) k (exponent + k)
  rw [hvalue, Int.add_sub_cancel] at hshift
  rw [hshift, scientific]
  congr 1
  omega

end DecimalText

theorem stripZeros_digits {digits : List Char} (hd : Digits digits) :
    Digits (stripZeros digits) := by
  obtain ⟨k, hk⟩ := stripZeros_append digits
  intro c hc
  apply hd
  rw [hk]
  exact List.mem_append_left _ hc

theorem eq_zero_of_units {m : Magnitude} (h : m.units = 0) : m = .zero := by
  obtain ⟨mantissa, scale, hlt, hnormal, hle⟩ := m
  have hmantissa : mantissa = 0 := by
    rcases Nat.mul_eq_zero.mp h with h0 | h0
    · exact h0
    · exact absurd h0 (Nat.ne_of_gt (Nat.two_pow_pos _))
  have hscale : scale = 0 := by
    rcases hnormal with h0 | h0
    · exact h0
    · omega
  subst hmantissa hscale
  rfl

/-- A finite number is read back. -/
theorem readNumber_text (m : Magnitude) (negative : Bool) (hr : Ends rest) :
    readNumber negative (m.text ++ rest) = some (.number (.finite negative m), rest) := by
  unfold Magnitude.text
  split
  case isTrue h =>
    have hread := readNumber_positional negative (digits_zeros 1) (by simp) (digits_zeros 1)
      (by simp) hr
    rw [eq_zero_of_units h]
    exact hread
  case isFalse h =>
    have hm : 0 < m.units := Nat.pos_of_ne_zero h
    have hnear := Magnitude.near_shortest hm
    obtain ⟨hne, hvalue⟩ := scientific_stripZeros (hnear.pos hm) m.shortest.2
    obtain ⟨c, exponent, hread, hdecimal⟩ :=
      readsAs_decimalText negative (stripZeros_digits (digits_toDigits _)) hne rest hr
    rw [hvalue] at hdecimal
    rw [← hdecimal] at hnear
    rw [hnear.ofDecimal_eq hm] at hread
    exact hread

end Texts

end Stencil.Json
