import Stencil.Text.Utf8

/-!
Streams of bytes that are read piece by piece. How much one read gives is up to the stream, within
its contract; the pieces are always what the stream holds, in order.
-/
namespace Stencil

open Text

/-- A stream whose state is `ι`. While bytes are left, a read of a positive size gives at least one
of them and at most so many; a read of a negative size gives all of them. -/
structure ByteStream (ι : Type) where
  left : ι → Bytes
  read : Int → ι → Bytes × ι
  read_append : ∀ size s, (read size s).1 ++ left (read size s).2 = left s
  length_read : ∀ size s, 0 ≤ size → ((read size s).1.length : Int) ≤ size
  read_all : ∀ size s, size < 0 → (read size s).1 = left s
  left_of_read : ∀ size s, size ≠ 0 → (read size s).1 = [] → left s = []

namespace ByteStream

theorem length_left_read (stream : ByteStream ι) (size : Int) (s : ι)
    (h : (stream.read size s).1 ≠ []) :
    (stream.left (stream.read size s).2).length < (stream.left s).length := by
  have happend := congrArg List.length (stream.read_append size s)
  have hpos := List.length_pos_iff.mpr h
  rw [List.length_append] at happend
  omega

/-- The pieces that reads of a size give, up to the first read that gives nothing. -/
def pieces (stream : ByteStream ι) (size : Int) (s : ι) : List Bytes :=
  if _ : (stream.read size s).1 = [] then []
  else (stream.read size s).1 :: stream.pieces size (stream.read size s).2
termination_by (stream.left s).length
decreasing_by exact stream.length_left_read size s ‹_›

/-- Bytes given in portions: a read of `n` bytes gives `portion n` of them. -/
def portioned (portion : Nat → Nat) (hle : ∀ n, portion n ≤ n)
    (hpos : ∀ n, 0 < n → 0 < portion n) : ByteStream Bytes where
  left := id
  read size data := if size < 0 then (data, []) else data.splitAt (portion size.toNat)
  read_append size data := by
    split <;> simp
  length_read size data h := by
    have := hle size.toNat
    rw [if_neg (by omega), List.splitAt_eq, List.length_take]
    omega
  read_all size data h := by
    rw [if_pos h]
    rfl
  left_of_read size data h hnil := by
    split at hnil
    · exact hnil
    · have := hpos size.toNat (by omega)
      rw [List.splitAt_eq, List.take_eq_nil_iff] at hnil
      exact hnil.resolve_left (by omega)

/-- Bytes that are all there: a read gives as many as are asked for. -/
def inMemory : ByteStream Bytes := portioned id (fun _ => Nat.le_refl _) fun _ => id

end ByteStream

end Stencil
