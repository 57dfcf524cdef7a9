import Stencil.Proofs.Text.Utf8

/-!
The decoder finds the one reading that bytes have. While a character is open, its state says which
bytes can still finish it, and what character they make; a byte that is none of them shows that what
is open is damaged.
-/
namespace Stencil.Text

section Widths

variable {bits low high : Nat} {q : Bytes}

/-- The bytes that can follow: the next one in a range, and then as many as are left. -/
def Fits (low high left : Nat) : Bytes → Prop
  | [] => False
  | b :: rest => (low ≤ b.toNat ∧ b.toNat ≤ high) ∧ rest.length = left ∧ ∀ x ∈ rest, IsTail x

@[irreducible] def withBits (bits : Nat) (b : UInt8) : Nat := bits * 64 + (b.toNat - 0x80)

theorem withBits_eq (bits : Nat) (b : UInt8) : withBits bits b = bits * 64 + (b.toNat - 0x80) := by
  unfold withBits
  rfl

/-- The number that the bytes make of the bits before them. -/
def value (bits : Nat) (q : Bytes) : Nat := q.foldl withBits bits

@[simp] theorem value_nil (bits : Nat) : value bits [] = bits := rfl

@[simp] theorem value_cons (bits : Nat) (b : UInt8) (q : Bytes) :
    value bits (b :: q) = value (withBits bits b) q := rfl

theorem fits_zero : Fits low high 0 q ↔ ∃ b, q = [b] ∧ low ≤ b.toNat ∧ b.toNat ≤ high := by
  cases q with
  | nil => simp [Fits]
  | cons b rest =>
    constructor
    · rintro ⟨hb, hlength, -⟩
      rw [List.eq_nil_of_length_eq_zero hlength]
      exact ⟨b, rfl, hb⟩
    · rintro ⟨x, hx, hb⟩
      cases hx
      exact ⟨hb, rfl, List.forall_mem_nil _⟩

theorem fits_cons {left : Nat} {b : UInt8} {rest : Bytes} :
    Fits low high (left + 1) (b :: rest) ↔
      (low ≤ b.toNat ∧ b.toNat ≤ high) ∧ Fits 0x80 0xBF left rest := by
  cases rest with
  | nil => simp [Fits]
  | cons x rest => simp [Fits, IsTail, and_left_comm]

theorem fits_succ {left : Nat} :
    Fits low high (left + 1) q ↔
      ∃ b rest, q = b :: rest ∧ (low ≤ b.toNat ∧ b.toNat ≤ high) ∧ Fits 0x80 0xBF left rest := by
  cases q with
  | nil => simp [Fits]
  | cons b rest =>
    rw [fits_cons]
    constructor
    · exact fun h => ⟨b, rest, rfl, h⟩
    · rintro ⟨_, _, hcons, h⟩
      cases hcons
      exact h

theorem toNat_ofNat {n : Nat} (h : n.isValidChar) : (Char.ofNat n).toNat = n := by
  rw [Char.ofNat, dif_pos h]
  rfl

theorem ofNat_eq {n : Nat} {b : UInt8} (h : n = b.toNat) : UInt8.ofNat n = b := by
  rw [h, UInt8.ofNat_toNat]

end Widths

namespace Utf8State

def Completes : Utf8State → Bytes → Char → Prop
  | start, q, c => encodeChar c = q
  | inside bits low high left, q, c => Fits low high left q ∧ c.toNat = value bits q

inductive Opens : Nat → Utf8State → Prop
  | two {a : Nat} : 0xC2 ≤ a ∧ a ≤ 0xDF → Opens a (.inside (a - 0xC0) 0x80 0xBF 0)
  /-- Less would be written with two bytes. -/
  | threeLow : Opens 0xE0 (.inside 0 0xA0 0xBF 1)
  | three {a : Nat} : 0xE1 ≤ a ∧ a ≤ 0xEF → a ≠ 0xED → Opens a (.inside (a - 0xE0) 0x80 0xBF 1)
  /-- More would be a surrogate. -/
  | threeHigh : Opens 0xED (.inside 0xD 0x80 0x9F 1)
  /-- Less would be written with three bytes. -/
  | fourLow : Opens 0xF0 (.inside 0 0x90 0xBF 2)
  | four {a : Nat} : 0xF1 ≤ a ∧ a ≤ 0xF3 → Opens a (.inside (a - 0xF0) 0x80 0xBF 2)
  /-- More would be above U+10FFFF. -/
  | fourHigh : Opens 0xF4 (.inside 4 0x80 0x8F 2)

theorem opens_of_first {a : Nat} {s : Utf8State} (h : first a = ([], s)) : Opens a s := by
  unfold first at h
  simp only [Bool.and_eq_true, decide_eq_true_eq, beq_iff_eq] at h
  split at h
  case isTrue => cases h
  split at h
  case isTrue ha =>
    cases h
    exact .two ha
  split at h
  case isTrue ha =>
    cases h
    exact ha ▸ .threeLow
  split at h
  case isTrue ha =>
    cases h
    exact ha ▸ .threeHigh
  split at h
  case isTrue hne ha =>
    cases h
    exact .three ha hne
  split at h
  case isTrue ha =>
    cases h
    exact ha ▸ .fourLow
  split at h
  case isTrue ha =>
    cases h
    exact .four ha
  split at h
  case isTrue ha =>
    cases h
    exact ha ▸ .fourHigh
  case isFalse => cases h

theorem Opens.first_eq {a : Nat} {s : Utf8State} (h : Opens a s) : first a = ([], s) := by
  cases h with
  | two h => rw [first, if_neg (by omega), if_pos (by simpa using h)]
  | threeLow | threeHigh | fourLow | fourHigh => rfl
  | three h hne =>
    rw [first, if_neg (by omega), if_neg (by simp; omega), if_neg (by simp; omega),
      if_neg (by simpa using hne), if_pos (by simpa using h)]
  | four h =>
    rw [first, if_neg (by omega), if_neg (by simp; omega), if_neg (by simp; omega),
      if_neg (by simp; omega), if_neg (by simp; omega), if_neg (by simp; omega),
      if_pos (by simpa using h)]

section Characters

variable {bits low high : Nat} {a : UInt8} {q : Bytes} {c : Char}

theorem Completes.two (hs : (inside bits low high 0).Completes q c) (ha : a.toNat = 0xC0 + bits)
    (hbits : 2 ≤ bits ∧ bits < 0x20) (hrange : 0x80 ≤ low ∧ high ≤ 0xBF) :
    encodeChar c = a :: q := by
  obtain ⟨hq, hn⟩ := hs
  obtain ⟨x, rfl, hx, hx'⟩ := fits_zero.mp hq
  simp only [value_cons, value_nil, withBits_eq] at hn
  have hhead : UInt8.ofNat (0xC0 + c.toNat / 64) = a := ofNat_eq (by omega)
  have hlast : UInt8.ofNat (0x80 + c.toNat % 64) = x := ofNat_eq (by omega)
  rw [encodeChar, if_neg (by omega), if_pos (by omega), hhead, hlast]

theorem Completes.three (hs : (inside bits low high 1).Completes q c) (ha : a.toNat = 0xE0 + bits)
    (hbits : 0x20 ≤ bits * 64 + (low - 0x80) ∧ bits < 0x10) (hrange : 0x80 ≤ low ∧ high ≤ 0xBF) :
    encodeChar c = a :: q := by
  obtain ⟨hq, hn⟩ := hs
  obtain ⟨x, q, rfl, ⟨hx, hx'⟩, hq⟩ := fits_succ.mp hq
  obtain ⟨y, rfl, hy, hy'⟩ := fits_zero.mp hq
  simp only [value_cons, value_nil, withBits_eq] at hn
  have hhead : UInt8.ofNat (0xE0 + c.toNat / 4096) = a := ofNat_eq (by omega)
  have hsecond : UInt8.ofNat (0x80 + c.toNat / 64 % 64) = x := ofNat_eq (by omega)
  have hlast : UInt8.ofNat (0x80 + c.toNat % 64) = y := ofNat_eq (by omega)
  rw [encodeChar, if_neg (by omega), if_neg (by omega), if_pos (by omega), hhead, hsecond, hlast]

theorem Completes.four (hs : (inside bits low high 2).Completes q c) (ha : a.toNat = 0xF0 + bits)
    (hbits : 0x10 ≤ bits * 64 + (low - 0x80)) (hrange : 0x80 ≤ low ∧ high ≤ 0xBF) :
    encodeChar c = a :: q := by
  obtain ⟨hq, hn⟩ := hs
  obtain ⟨x, q, rfl, ⟨hx, hx'⟩, hq⟩ := fits_succ.mp hq
  obtain ⟨y, q, rfl, ⟨hy, hy'⟩, hq⟩ := fits_succ.mp hq
  obtain ⟨z, rfl, hz, hz'⟩ := fits_zero.mp hq
  simp only [value_cons, value_nil, withBits_eq] at hn
  have hhead : UInt8.ofNat (0xF0 + c.toNat / 262144) = a := ofNat_eq (by omega)
  have hsecond : UInt8.ofNat (0x80 + c.toNat / 4096 % 64) = x := ofNat_eq (by omega)
  have hthird : UInt8.ofNat (0x80 + c.toNat / 64 % 64) = y := ofNat_eq (by omega)
  have hlast : UInt8.ofNat (0x80 + c.toNat % 64) = z := ofNat_eq (by omega)
  rw [encodeChar, if_neg (by omega), if_neg (by omega), if_neg (by omega), hhead, hsecond, hthird,
    hlast]

/-- A first byte and bytes that finish what it opens are a character. -/
theorem Opens.encodeChar_eq {s : Utf8State} (h : Opens a.toNat s) (hs : s.Completes q c) :
    encodeChar c = a :: q := by
  generalize ha : a.toNat = n at h
  cases h with
  | two h => exact hs.two (by omega) (by omega) (by omega)
  | threeLow => exact hs.three (by omega) (by omega) (by omega)
  | three h hne => exact hs.three (by omega) (by omega) (by omega)
  | threeHigh => exact hs.three (by omega) (by omega) (by omega)
  | fourLow => exact hs.four (by omega) (by omega) (by omega)
  | four h => exact hs.four (by omega) (by omega) (by omega)
  | fourHigh => exact hs.four (by omega) (by omega) (by omega)

/-- A character is a byte of its own, or a first byte and bytes that finish what it opens. -/
theorem opens_of_encodeChar (h : encodeChar c = a :: q) :
    (first a.toNat = ([some c], .start) ∧ q = []) ∨ ∃ s, Opens a.toNat s ∧ s.Completes q c := by
  have hc : c.toNat < 0xD800 ∨ 0xDFFF < c.toNat ∧ c.toNat < 0x110000 := c.valid
  simp only [encodeChar] at h
  split at h
  case isTrue hsmall =>
    obtain ⟨rfl, rfl⟩ := List.cons.inj h
    have ha := UInt8.toNat_ofNat_of_lt' (show c.toNat < 256 by omega)
    rw [ha, first, if_pos hsmall, Char.ofNat_toNat]
    exact .inl ⟨rfl, rfl⟩
  right
  split at h
  case isTrue =>
    obtain ⟨rfl, rfl⟩ := List.cons.inj h
    rw [UInt8.toNat_ofNat_of_lt' (show 0xC0 + c.toNat / 64 < 256 by omega)]
    exact ⟨_, .two (by omega), by simp [Completes, Fits, withBits_eq]; omega⟩
  split at h
  case isTrue =>
    obtain ⟨rfl, rfl⟩ := List.cons.inj h
    rw [UInt8.toNat_ofNat_of_lt' (show 0xE0 + c.toNat / 4096 < 256 by omega)]
    by_cases hlow : c.toNat < 0x1000
    · rw [show 0xE0 + c.toNat / 4096 = 0xE0 by omega]
      exact ⟨_, .threeLow, by simp [Completes, Fits, withBits_eq, IsTail]; omega⟩
    by_cases hhigh : 0xD000 ≤ c.toNat ∧ c.toNat < 0xE000
    · rw [show 0xE0 + c.toNat / 4096 = 0xED by omega]
      exact ⟨_, .threeHigh, by simp [Completes, Fits, withBits_eq, IsTail]; omega⟩
    · exact ⟨_, .three (by omega) (by omega), by simp [Completes, Fits, withBits_eq, IsTail]; omega⟩
  case isFalse =>
    obtain ⟨rfl, rfl⟩ := List.cons.inj h
    rw [UInt8.toNat_ofNat_of_lt' (show 0xF0 + c.toNat / 262144 < 256 by omega)]
    by_cases hlow : c.toNat < 0x40000
    · rw [show 0xF0 + c.toNat / 262144 = 0xF0 by omega]
      exact ⟨_, .fourLow, by simp [Completes, Fits, withBits_eq, IsTail]; omega⟩
    by_cases hhigh : 0x100000 ≤ c.toNat
    · rw [show 0xF0 + c.toNat / 262144 = 0xF4 by omega]
      exact ⟨_, .fourHigh, by simp [Completes, Fits, withBits_eq, IsTail]; omega⟩
    · exact ⟨_, .four (by omega), by simp [Completes, Fits, withBits_eq, IsTail]; omega⟩

theorem encodeChar_of_first (h : first a.toNat = ([some c], .start)) : encodeChar c = [a] := by
  have ha : a.toNat < 0x80 := by
    apply Classical.byContradiction
    intro ha
    rw [first, if_neg ha] at h
    revert h
    repeat' split
    all_goals simp
  rw [first, if_pos ha] at h
  cases h
  have hn : (Char.ofNat a.toNat).toNat = a.toNat := toNat_ofNat (.inl (by omega))
  rw [encodeChar, if_pos (by omega), ofNat_eq hn]

end Characters

/-- There are bytes that finish what is open, and all that fit do. -/
def Completable : Utf8State → Prop
  | start => True
  | inside bits low high left =>
    low ≤ high ∧ high < 0x100 ∧ ∀ q, Fits low high left q → (value bits q).isValidChar

theorem Opens.completable {a : Nat} {s : Utf8State} (h : Opens a s) : s.Completable := by
  cases h with
  | two =>
    refine ⟨by omega, by omega, fun q hq => ?_⟩
    obtain ⟨x, rfl, hx⟩ := fits_zero.mp hq
    simp only [value_cons, value_nil, withBits_eq, Nat.isValidChar]
    omega
  | threeLow | three | threeHigh =>
    refine ⟨by omega, by omega, fun q hq => ?_⟩
    obtain ⟨x, q, rfl, hx, hq⟩ := fits_succ.mp hq
    obtain ⟨y, rfl, hy⟩ := fits_zero.mp hq
    simp only [value_cons, value_nil, withBits_eq, Nat.isValidChar]
    omega
  | fourLow | four | fourHigh =>
    refine ⟨by omega, by omega, fun q hq => ?_⟩
    obtain ⟨x, q, rfl, hx, hq⟩ := fits_succ.mp hq
    obtain ⟨y, q, rfl, hy, hq⟩ := fits_succ.mp hq
    obtain ⟨z, rfl, hz⟩ := fits_zero.mp hq
    simp only [value_cons, value_nil, withBits_eq, Nat.isValidChar]
    omega

variable {s s' : Utf8State} {b : UInt8}

theorem Completable.exists_completes (h : s.Completable) : ∃ q c, s.Completes q c := by
  cases s with
  | start => exact ⟨_, 'a', rfl⟩
  | inside bits low high left =>
    obtain ⟨hrange, hbyte, hvalid⟩ := h
    have hlow : (UInt8.ofNat low).toNat = low := UInt8.toNat_ofNat_of_lt' (show low < 256 by omega)
    have hq : Fits low high left (UInt8.ofNat low :: List.replicate left 0x80) := by
      refine ⟨by omega, List.length_replicate, fun x hx => ?_⟩
      rw [List.eq_of_mem_replicate hx]
      exact ⟨by decide, by decide⟩
    exact ⟨_, _, hq, toNat_ofNat (hvalid _ hq)⟩

/-- What one byte can do to the decoder. -/
theorem step_cases (s : Utf8State) (b : Nat) :
    (∃ c, s.step b = ([some c], .start)) ∨ (∃ s' ≠ .start, s.step b = ([], s')) ∨
      (s = .start ∧ s.step b = ([none], .start)) ∨
      (s ≠ .start ∧ s.step b = (none :: (first b).1, (first b).2)) := by
  cases s with
  | start =>
    simp only [step, first]
    repeat' split
    all_goals simp
  | inside bits low high left =>
    simp only [step]
    split
    · cases left <;> simp
    · simp

section Inside

variable {bits low high : Nat}

theorem step_last (hb : low ≤ b.toNat ∧ b.toNat ≤ high) :
    (inside bits low high 0).step b.toNat = ([some (Char.ofNat (withBits bits b))], .start) := by
  simp [step, withBits_eq, hb]

theorem step_more (hb : low ≤ b.toNat ∧ b.toNat ≤ high) (left : Nat) :
    (inside bits low high (left + 1)).step b.toNat =
      ([], .inside (withBits bits b) 0x80 0xBF left) := by
  simp [step, withBits_eq, hb]

theorem step_broken (hb : ¬(low ≤ b.toNat ∧ b.toNat ≤ high)) (left : Nat) :
    (inside bits low high left).step b.toNat =
      (none :: (first b.toNat).1, (first b.toNat).2) := by
  simp [step, hb]

end Inside

theorem Completable.step (h : s.Completable) (hstep : s.step b.toNat = ([], s')) :
    s'.Completable := by
  cases s with
  | start => exact (opens_of_first hstep).completable
  | inside bits low high left =>
    by_cases hb : low ≤ b.toNat ∧ b.toNat ≤ high
    · cases left with
      | zero =>
        rw [step_last hb] at hstep
        cases hstep
      | succ left =>
        rw [step_more hb] at hstep
        cases hstep
        refine ⟨by decide, by decide, fun q hq => ?_⟩
        exact h.2.2 (b :: q) (fits_cons.mpr ⟨hb, hq⟩)
    · rw [step_broken hb] at hstep
      cases hstep

theorem completes_last {bits low high : Nat} (h : (inside bits low high 0).Completable)
    (hb : low ≤ b.toNat ∧ b.toNat ≤ high) (q : Bytes) (c : Char) :
    (inside bits low high 0).Completes (b :: q) c ↔
      Char.ofNat (withBits bits b) = c ∧ q = [] := by
  have hfits : Fits low high 0 [b] := fits_zero.mpr ⟨b, rfl, hb⟩
  constructor
  · rintro ⟨hq, hn⟩
    obtain ⟨x, hx, -⟩ := fits_zero.mp hq
    cases hx
    rw [← Char.ofNat_toNat c, hn]
    exact ⟨rfl, rfl⟩
  · rintro ⟨rfl, rfl⟩
    exact ⟨hfits, toNat_ofNat (h.2.2 [b] hfits)⟩

theorem completes_more {bits low high left : Nat} (hb : low ≤ b.toNat ∧ b.toNat ≤ high)
    (q : Bytes) (c : Char) :
    (inside bits low high (left + 1)).Completes (b :: q) c ↔
      (inside (withBits bits b) 0x80 0xBF left).Completes q c := by
  simp only [Completes, fits_cons, value_cons, hb, true_and]

/-- A byte either finishes what is open as the last one, or goes on with it, and the rest finishes
what is open then. -/
theorem completes_cons (h : s.Completable) (b : UInt8) (q : Bytes) (c : Char) :
    s.Completes (b :: q) c ↔
      (s.step b.toNat = ([some c], .start) ∧ q = []) ∨
        ∃ s', s.step b.toNat = ([], s') ∧ s'.Completes q c := by
  cases s with
  | start =>
    constructor
    · intro hc
      rcases opens_of_encodeChar hc with hfirst | ⟨s, hs, hq⟩
      · exact .inl hfirst
      · exact .inr ⟨s, hs.first_eq, hq⟩
    · rintro (⟨hfirst, rfl⟩ | ⟨s, hs, hq⟩)
      · exact encodeChar_of_first hfirst
      · exact (opens_of_first hs).encodeChar_eq hq
  | inside bits low high left =>
    by_cases hb : low ≤ b.toNat ∧ b.toNat ≤ high
    · cases left with
      | zero => simp [completes_last h hb, step_last hb]
      | succ left => simp [completes_more hb, step_more hb]
    · have hfits : ¬Fits low high left (b :: q) := fun hq => hb hq.1
      simp [Completes, hfits, step_broken hb]

/-- What finishes an open character is read as that character. -/
theorem run_completes {q : Bytes} {c : Char} (h : s.Completable) (hq : s.Completes q c)
    (rest : Bytes) : s.run (q ++ rest) = some c :: start.run rest := by
  induction q generalizing s with
  | nil =>
    cases s with
    | start => exact absurd hq (encodeChar_ne_nil c)
    | inside => exact absurd hq.1 id
  | cons b q ih =>
    rw [List.cons_append, run]
    rcases (completes_cons h b q c).mp hq with ⟨hstep, rfl⟩ | ⟨s', hstep, hq⟩
    · rw [hstep]
      rfl
    · rw [hstep]
      exact ih (h.step hstep) hq

theorem run_encodeChar (c : Char) (rest : Bytes) :
    start.run (encodeChar c ++ rest) = some c :: start.run rest :=
  run_completes (s := start) trivial rfl rest

end Utf8State

open Utf8State

/-- No character goes on where another one ends. -/
theorem encodeChar_append_inj {c d : Char} {xs ys : Bytes}
    (h : encodeChar c ++ xs = encodeChar d ++ ys) : c = d ∧ xs = ys := by
  have hruns := congrArg start.run h
  rw [run_encodeChar, run_encodeChar] at hruns
  obtain ⟨hhead, -⟩ := List.cons.inj hruns
  cases hhead
  exact ⟨rfl, List.append_cancel_left h⟩

section Readings

/-- Bytes have one reading only. -/
theorem Reads.unique {bytes : Bytes} {ds es : List Decoded} (h : Reads bytes ds)
    (h' : Reads bytes es) : ds = es := by
  induction h generalizing es with
  | nil =>
    generalize hb : ([] : Bytes) = bytes at h'
    cases h' with
    | nil => rfl
    | char c => exact absurd (List.append_eq_nil_iff.mp hb.symm).1 (encodeChar_ne_nil c)
    | damage hd => exact absurd (List.append_eq_nil_iff.mp hb.symm).1 hd.ne_nil
  | @char rest ds c _ ih =>
    generalize hb : encodeChar c ++ rest = bytes at h'
    cases h' with
    | nil => exact absurd (List.append_eq_nil_iff.mp hb).1 (encodeChar_ne_nil c)
    | char d hrest =>
      obtain ⟨rfl, rfl⟩ := encodeChar_append_inj hb
      rw [ih hrest]
    | damage hd => exact absurd ⟨rest, hb⟩ (hd.noChar c)
  | @damage piece rest ds hd _ ih =>
    generalize hb : piece ++ rest = bytes at h'
    cases h' with
    | nil => exact absurd (List.append_eq_nil_iff.mp hb).1 hd.ne_nil
    | @char rest' _ d => exact absurd ⟨rest', hb.symm⟩ (hd.noChar d)
    | damage hd' hrest =>
      obtain ⟨rfl, rfl⟩ := hd.eq_of_append hd' hb
      rw [ih hrest]

variable {s s' : Utf8State} {p rest : Bytes} {b : UInt8}

structure Holds (s : Utf8State) (p : Bytes) : Prop where
  completable : s.Completable
  nil_iff : s = .start ↔ p = []
  completes : ∀ q c, encodeChar c = p ++ q ↔ s.Completes q c

theorem holds_start : Holds .start [] := ⟨trivial, by simp, fun _ _ => Iff.rfl⟩

theorem Holds.begins (h : Holds s p) : Begins p := by
  obtain ⟨q, c, hq⟩ := h.completable.exists_completes
  exact ⟨c, q, ((h.completes q c).mpr hq).symm⟩

/-- A byte that finishes a character. -/
theorem Holds.char (h : Holds s p) {c : Char} (hstep : s.step b.toNat = ([some c], .start)) :
    encodeChar c = p ++ [b] :=
  (h.completes [b] c).mpr ((completes_cons h.completable b [] c).mpr (.inl ⟨hstep, rfl⟩))

/-- A byte that goes on with a character. -/
theorem Holds.step (h : Holds s p) (hstep : s.step b.toNat = ([], s')) : Holds s' (p ++ [b]) := by
  refine ⟨h.completable.step hstep, ?_, fun q c => ?_⟩
  · have hne : s' ≠ .start := by
      rcases step_cases s b.toNat with ⟨c, hs⟩ | ⟨s'', hne, hs⟩ | ⟨-, hs⟩ | ⟨-, hs⟩ <;>
        rw [hstep] at hs <;> cases hs
      exact hne
    simp [hne]
  · rw [List.append_assoc, List.singleton_append, h.completes, completes_cons h.completable]
    simp [hstep]

/-- A byte at which the decoder sees damage goes on with nothing. -/
theorem Holds.not_begins (h : Holds s p) {ds : List Decoded}
    (hstep : s.step b.toNat = (none :: ds, s')) : ¬Begins (p ++ [b]) := by
  rintro ⟨c, q, hq⟩
  rw [List.append_assoc, List.singleton_append] at hq
  rcases (completes_cons h.completable b q c).mp ((h.completes _ c).mp hq.symm) with
    ⟨hchar, -⟩ | ⟨s', hopen, -⟩
  · rw [hstep] at hchar
    cases hchar
  · rw [hstep] at hopen
    cases hopen

/-- What is open is damaged if nothing goes on with it. -/
theorem Holds.damaged (h : Holds s p) (hs : s ≠ .start)
    (hrest : ∀ b ∈ rest.head?, ¬Begins (p ++ [b])) : Damaged p rest := by
  refine ⟨fun hp => hs (h.nil_iff.mpr hp), fun c hc => ?_, .inl h.begins, hrest⟩
  rcases prefix_cases hc with ⟨after, hafter⟩ | ⟨b, hb, hbegins⟩
  · obtain ⟨q, d, hq⟩ := h.completable.exists_completes
    have hd := (h.completes q d).mpr hq
    rw [← hafter, List.append_assoc, ← List.append_nil (encodeChar d)] at hd
    obtain ⟨-, hnil⟩ := encodeChar_append_inj hd
    obtain ⟨-, rfl⟩ := List.append_eq_nil_iff.mp hnil.symm
    cases s with
    | start => exact hs rfl
    | inside => exact hq.1
  · exact hrest b hb hbegins

/-- A byte that begins nothing is damaged by itself. -/
theorem damaged_single (h : ¬Begins [b]) (rest : Bytes) : Damaged [b] rest := by
  refine ⟨List.cons_ne_nil b [], fun c hc => h ?_, .inr rfl, fun x _ hx => h ?_⟩
  · obtain ⟨a, after, heq, -⟩ := encodeChar_eq_cons c
    rw [heq] at hc
    obtain ⟨rfl, -⟩ := List.cons_prefix_cons.mp hc
    exact ⟨c, after, heq.symm⟩
  · exact hx.of_prefix (List.prefix_append [b] [x])

/-- A byte is read with what is open, unless one of them is damaged. -/
theorem Holds.reads_cons (h : Holds s p)
    (ih : ∀ {s p}, Holds s p → Reads (p ++ rest) (s.run rest))
    (hlone : s = .start → s.step b.toNat = ([none], .start) →
      Reads (p ++ b :: rest) (s.run (b :: rest)))
    (hbroken : s ≠ .start → s.step b.toNat = (none :: (first b.toNat).1, (first b.toNat).2) →
      Reads (p ++ b :: rest) (s.run (b :: rest))) :
    Reads (p ++ b :: rest) (s.run (b :: rest)) := by
  rcases step_cases s b.toNat with ⟨c, hstep⟩ | ⟨s', -, hstep⟩ | ⟨hs, hstep⟩ | ⟨hs, hstep⟩
  · have hrest := Reads.char c (ih holds_start)
    rw [h.char hstep, List.append_assoc] at hrest
    rw [run, hstep]
    exact hrest
  · have hrest := ih (h.step hstep)
    rw [List.append_assoc] at hrest
    rw [run, hstep]
    exact hrest
  · exact hlone hs hstep
  · exact hbroken hs hstep

/-- What the decoder makes of the bytes that are left completes the reading of those it holds. -/
theorem Holds.reads (h : Holds s p) (bytes : Bytes) : Reads (p ++ bytes) (s.run bytes) := by
  induction bytes generalizing s p with
  | nil =>
    cases hs : s with
    | start =>
      rw [h.nil_iff.mp hs]
      exact .nil
    | inside bits low high left =>
      have hd : Damaged p [] := h.damaged (by simp [hs]) (by simp)
      exact .damage hd .nil
  | cons b rest ih =>
    have hstart : Reads (b :: rest) (start.run (b :: rest)) := by
      refine holds_start.reads_cons ih (fun _ hstep => ?_) (fun hs => absurd rfl hs)
      have hd := damaged_single (holds_start.not_begins hstep) rest
      have hrest : Reads ([b] ++ rest) (none :: start.run rest) := .damage hd (ih holds_start)
      rw [run, hstep]
      exact hrest
    refine h.reads_cons ih (fun hs _ => ?_) (fun hs hstep => ?_)
    · rw [h.nil_iff.mp hs, hs]
      exact hstart
    · have hd : Damaged p (b :: rest) := by
        refine h.damaged hs fun x hx => ?_
        cases hx
        exact h.not_begins hstep
      rw [run, hstep]
      exact .damage hd hstart

/-- The decoder finds the reading of all bytes. -/
theorem reads_iff (bytes : Bytes) (ds : List Decoded) :
    Reads bytes ds ↔ start.run bytes = ds := by
  have hrun : Reads bytes (start.run bytes) := holds_start.reads bytes
  constructor
  · exact fun h => hrun.unique h
  · rintro rfl
    exact hrun

end Readings

section Decoded

/-- The text that a reading shows. -/
theorem decodeUtf8_of_reads {bytes : Bytes} {ds : List Decoded} (h : Reads bytes ds) :
    decodeUtf8 bytes = ds.map fun d => d.getD replacement := by
  rw [decodeUtf8, (reads_iff bytes ds).mp h]

theorem reads_run (bytes : Bytes) : Reads bytes (start.run bytes) := (reads_iff bytes _).mpr rfl

/-- Text is decoded to itself, whatever follows it. -/
theorem decodeUtf8_text (s : List Char) (ys : Bytes) :
    decodeUtf8 (encodeUtf8 s ++ ys) = s ++ decodeUtf8 ys := by
  rw [decodeUtf8_of_reads (.text s (reads_run ys)), decodeUtf8]
  simp [Function.comp_def]

/-- Text is decoded to itself between any bytes, and they are decoded as if it were not there. -/
theorem decodeUtf8_between (xs : Bytes) {s : List Char} (hs : s ≠ []) (ys : Bytes) :
    decodeUtf8 (xs ++ encodeUtf8 s ++ ys) = decodeUtf8 xs ++ s ++ decodeUtf8 ys := by
  rw [decodeUtf8_of_reads ((reads_run xs).between hs (reads_run ys)), decodeUtf8, decodeUtf8]
  simp [Function.comp_def]

/-- Text behind any bytes is decoded to itself. -/
theorem decodeUtf8_append_text (xs : Bytes) (s : List Char) :
    decodeUtf8 (xs ++ encodeUtf8 s) = decodeUtf8 xs ++ s := by
  cases s with
  | nil => simp
  | cons c s =>
    have hbetween := decodeUtf8_between xs (List.cons_ne_nil c s) []
    rwa [List.append_nil, show decodeUtf8 [] = [] from rfl, List.append_nil] at hbetween

theorem decodeUtf8_encodeUtf8 (s : List Char) : decodeUtf8 (encodeUtf8 s) = s :=
  decodeUtf8_append_text [] s

end Decoded

end Stencil.Text
