import Stencil.Text.Utf8

/-!
What bytes say as UTF-8, without a decoder. They are cut into the bytes of characters and damaged
pieces, and a piece is the longest part at its place that begins a character, or a single byte. The
first byte of a character goes on with nothing, so what stands before it is cut as it would be if
the bytes ended there.
-/
namespace Stencil.Text

section Characters

/-- The byte goes on with a character and begins none. -/
def IsTail (b : UInt8) : Prop := 0x80 ≤ b.toNat ∧ b.toNat ≤ 0xBF

/-- Only the first byte of a character is none that goes on. -/
theorem encodeChar_eq_cons (c : Char) :
    ∃ a rest, encodeChar c = a :: rest ∧ ¬IsTail a ∧ ∀ b ∈ rest, IsTail b := by
  have hc : c.toNat < 0xD800 ∨ 0xDFFF < c.toNat ∧ c.toNat < 0x110000 := c.valid
  simp only [encodeChar]
  split
  · exact ⟨_, _, rfl, by simp [IsTail]; omega, List.forall_mem_nil _⟩
  split
  · exact ⟨_, _, rfl, by simp [IsTail]; omega, by simp [IsTail]; omega⟩
  split
  · exact ⟨_, _, rfl, by simp [IsTail]; omega, by simp [IsTail]; omega⟩
  · exact ⟨_, _, rfl, by simp [IsTail]; omega, by simp [IsTail]; omega⟩

theorem encodeChar_ne_nil (c : Char) : encodeChar c ≠ [] := by
  obtain ⟨a, rest, heq, -⟩ := encodeChar_eq_cons c
  simp [heq]

/-- A character below 0x80 is its own byte. -/
theorem encodeUtf8_of_lt {s : List Char} (h : ∀ c ∈ s, c.toNat < 0x80) :
    encodeUtf8 s = s.map fun c => UInt8.ofNat c.toNat := by
  induction s with
  | nil => rfl
  | cons c s ih =>
    obtain ⟨hc, hs⟩ := List.forall_mem_cons.mp h
    rw [encodeUtf8_cons, ih hs, encodeChar, if_pos hc]
    rfl

/-- The bytes of a character begin like that. -/
def Begins (piece : Bytes) : Prop := ∃ c, piece <+: encodeChar c

theorem Begins.of_prefix {piece longer : Bytes} (h : Begins longer) (hp : piece <+: longer) :
    Begins piece := by
  obtain ⟨c, hc⟩ := h
  exact ⟨c, hp.trans hc⟩

/-- A character at the beginning of two parts stands in the first one, or goes on with the other. -/
theorem prefix_cases {c : Char} {xs ys : Bytes} (h : encodeChar c <+: xs ++ ys) :
    encodeChar c <+: xs ∨ ∃ b ∈ ys.head?, Begins (xs ++ [b]) := by
  rcases List.prefix_or_prefix_of_prefix h (List.prefix_append xs ys) with hshort | hlong
  · exact .inl hshort
  obtain ⟨more, hmore⟩ := hlong
  cases more with
  | nil => exact .inl ⟨[], by simp [← hmore]⟩
  | cons b more =>
    rw [← hmore] at h
    obtain ⟨last, rfl⟩ := (List.prefix_append_right_inj xs).mp h
    exact .inr ⟨b, rfl, c, more, by simp [← hmore]⟩

theorem Begins.isTail {piece : Bytes} {b : UInt8} (h : Begins (piece ++ [b])) (hne : piece ≠ []) :
    IsTail b := by
  obtain ⟨c, after, hc⟩ := h
  obtain ⟨a, rest, heq, -, htails⟩ := encodeChar_eq_cons c
  cases piece with
  | nil => contradiction
  | cons x piece =>
    rw [heq] at hc
    obtain ⟨-, rfl⟩ := List.cons.inj hc
    exact htails b (by simp)

end Characters

section Readings

/-- No character stands at the beginning of the bytes, and the piece is what is damaged there: the
longest part that begins a character, or one byte where none does. -/
structure Damaged (piece rest : Bytes) : Prop where
  ne_nil : piece ≠ []
  noChar : ∀ c, ¬encodeChar c <+: piece ++ rest
  begins : Begins piece ∨ piece.length = 1
  longest : ∀ b ∈ rest.head?, ¬Begins (piece ++ [b])

theorem Damaged.eq_nil_of_append {piece more rest : Bytes} (h : Damaged piece (more ++ rest))
    (h' : Damaged (piece ++ more) rest) : more = [] := by
  cases more with
  | nil => rfl
  | cons b more =>
    rcases h'.begins with hbegins | hlength
    · exact absurd (hbegins.of_prefix ⟨more, by simp⟩) (h.longest b rfl)
    · have hpos := List.length_pos_iff.mpr h.ne_nil
      rw [List.length_append, List.length_cons] at hlength
      omega

/-- What is damaged at the beginning of bytes is one piece only. -/
theorem Damaged.eq_of_append {piece rest piece' rest' : Bytes} (h : Damaged piece rest)
    (h' : Damaged piece' rest') (heq : piece ++ rest = piece' ++ rest') :
    piece = piece' ∧ rest = rest' := by
  rcases List.append_eq_append_iff.mp heq with ⟨more, rfl, rfl⟩ | ⟨more, rfl, rfl⟩
  · cases h.eq_nil_of_append h'
    simp
  · cases h'.eq_nil_of_append h
    simp

inductive Reads : Bytes → List Decoded → Prop
  | nil : Reads [] []
  | char {rest : Bytes} {ds : List Decoded} (c : Char) :
      Reads rest ds → Reads (encodeChar c ++ rest) (some c :: ds)
  | damage {piece rest : Bytes} {ds : List Decoded} :
      Damaged piece rest → Reads rest ds → Reads (piece ++ rest) (none :: ds)

/-- A damaged piece stays what it is when bytes follow that do not go on with it. -/
theorem Damaged.append {piece rest : Bytes} (h : Damaged piece rest) {more : Bytes}
    (hmore : ∀ b ∈ more.head?, ¬IsTail b) : Damaged piece (rest ++ more) := by
  refine ⟨h.ne_nil, ?noChar, h.begins, ?longest⟩
  case noChar =>
    intro c hc
    rw [← List.append_assoc] at hc
    rcases prefix_cases hc with hc | ⟨b, hb, hbegins⟩
    · exact h.noChar c hc
    · exact hmore b hb (hbegins.isTail (by simp [h.ne_nil]))
  case longest =>
    intro b hb hbegins
    cases rest with
    | nil => exact hmore b hb (hbegins.isTail h.ne_nil)
    | cons x rest => exact h.longest b hb hbegins

/-- Bytes that begin with no byte that goes on are read as if nothing stood before them. -/
theorem Reads.append {xs more : Bytes} {ds es : List Decoded} (hx : Reads xs ds)
    (hhead : ∀ b ∈ more.head?, ¬IsTail b) (hmore : Reads more es) :
    Reads (xs ++ more) (ds ++ es) := by
  induction hx with
  | nil => exact hmore
  | char c _ ih =>
    rw [List.append_assoc]
    exact .char c ih
  | damage h _ ih =>
    rw [List.append_assoc]
    exact .damage (h.append hhead) ih

/-- A text is read back, whatever follows it. -/
theorem Reads.text (s : List Char) {ys : Bytes} {es : List Decoded} (hy : Reads ys es) :
    Reads (encodeUtf8 s ++ ys) (s.map some ++ es) := by
  induction s with
  | nil => exact hy
  | cons c s ih =>
    rw [encodeUtf8_cons, List.append_assoc]
    exact .char c ih

theorem not_isTail_encodeUtf8 {s : List Char} (hs : s ≠ []) (ys : Bytes) :
    ∀ b ∈ (encodeUtf8 s ++ ys).head?, ¬IsTail b := by
  cases s with
  | nil => contradiction
  | cons c s =>
    obtain ⟨a, rest, heq, ha, -⟩ := encodeChar_eq_cons c
    intro b hb
    rw [encodeUtf8_cons, heq] at hb
    cases hb
    exact ha

/-- A text is read back between any bytes, and they are read as if it were not there. -/
theorem Reads.between {xs ys : Bytes} {ds es : List Decoded} (hx : Reads xs ds) {s : List Char}
    (hs : s ≠ []) (hy : Reads ys es) :
    Reads (xs ++ encodeUtf8 s ++ ys) (ds ++ s.map some ++ es) := by
  rw [List.append_assoc, List.append_assoc]
  exact hx.append (not_isTail_encodeUtf8 hs ys) (.text s hy)

end Readings

end Stencil.Text
