import Mathlib.Data.List.TakeWhile
import Mathlib.Order.Bounds.Basic
import Stencil.Text.Search

/-!
The leftmost occurrence. Searching finds a pattern exactly if the text contains it, and then at the
least of the places where it stands, also where occurrences overlap and for the empty pattern. What
is replaced is that one occurrence. A text is cut at its last separator only, and what comes after
it holds none.
-/
namespace Stencil.Text

variable {pattern s before after : List Char} {n : Nat}

/-- The pattern stands in the text at a place. -/
def StandsAt (pattern s : List Char) (n : Nat) : Prop := n ≤ s.length ∧ pattern <+: s.drop n

theorem standsAt_zero : StandsAt pattern s 0 ↔ pattern <+: s := by
  simp [StandsAt]

theorem standsAt_succ (c : Char) : StandsAt pattern (c :: s) (n + 1) ↔ StandsAt pattern s n := by
  simp [StandsAt]

/-- A search cuts the text at the least place where the pattern stands. -/
theorem splitAtFirst_eq_some (h : splitAtFirst pattern s = some (before, after)) :
    s = before ++ pattern ++ after ∧ IsLeast {n | StandsAt pattern s n} before.length := by
  induction s generalizing before after with
  | nil =>
    rw [splitAtFirst] at h
    split at h
    · rename_i hp
      obtain rfl := List.isEmpty_iff.mp hp
      cases h
      exact ⟨rfl, standsAt_zero.mpr List.prefix_rfl, fun n _ => Nat.zero_le n⟩
    · cases h
  | cons c rest ih =>
    rw [splitAtFirst] at h
    split at h
    · rename_i hp
      have hprefix := List.isPrefixOf_iff_prefix.mp hp
      cases h
      refine ⟨?_, standsAt_zero.mpr hprefix, fun n _ => Nat.zero_le n⟩
      exact (List.prefix_iff_eq_append.mp hprefix).symm
    · rename_i hp
      obtain ⟨⟨before', after'⟩, hrest, heq⟩ := Option.map_eq_some_iff.mp h
      cases heq
      obtain ⟨hs, hstands, hleast⟩ := ih hrest
      refine ⟨by rw [hs]; rfl, (standsAt_succ c).mpr hstands, ?_⟩
      intro n hn
      cases n with
      | zero => exact absurd (List.isPrefixOf_iff_prefix.mpr (standsAt_zero.mp hn)) hp
      | succ n => exact Nat.succ_le_succ (hleast ((standsAt_succ c).mp hn))

/-- A search fails exactly if the text does not contain the pattern. -/
theorem splitAtFirst_eq_none : splitAtFirst pattern s = none ↔ ¬pattern <:+: s := by
  induction s with
  | nil => simp [splitAtFirst]
  | cons c rest ih =>
    rw [splitAtFirst, List.infix_cons_iff, not_or, ← ih, ← List.isPrefixOf_iff_prefix]
    split <;> simp [*]

theorem position?_eq_none : position? pattern s = none ↔ ¬pattern <:+: s := by
  rw [position?, Option.map_eq_none_iff, splitAtFirst_eq_none]

/-- A position that is found is the least of those where the pattern stands, and that one is
found. -/
theorem position?_eq_some :
    position? pattern s = some n ↔ IsLeast {n | StandsAt pattern s n} n := by
  have hfound (m : Nat) (h : position? pattern s = some m) :
      IsLeast {n | StandsAt pattern s n} m := by
    obtain ⟨⟨before, after⟩, hsplit, rfl⟩ := Option.map_eq_some_iff.mp h
    exact (splitAtFirst_eq_some hsplit).2
  refine ⟨hfound n, fun hn => ?_⟩
  cases h : position? pattern s with
  | none =>
    have hinfix : pattern <:+: s := hn.1.2.isInfix.trans (List.drop_suffix n s).isInfix
    exact absurd hinfix (position?_eq_none.mp h)
  | some m => rw [(hfound m h).unique hn]

/-- In a text that begins with the pattern, that occurrence is replaced, even if another one
overlaps it. -/
theorem replaceFirst_append (pattern replacement after : List Char) :
    replaceFirst pattern replacement (pattern ++ after) = replacement ++ after := by
  have hprefix : pattern <+: pattern ++ after := List.prefix_append pattern after
  rw [replaceFirst]
  cases hsplit : splitAtFirst pattern (pattern ++ after) with
  | none => exact absurd hprefix.isInfix (splitAtFirst_eq_none.mp hsplit)
  | some parts =>
    obtain ⟨before, after'⟩ := parts
    obtain ⟨hs, -, hleast⟩ := splitAtFirst_eq_some hsplit
    have hbefore : before = [] :=
      List.length_eq_zero_iff.mp (Nat.le_zero.mp (hleast (standsAt_zero.mpr hprefix)))
    subst hbefore
    rw [List.nil_append, List.append_cancel_left_eq] at hs
    rw [hs]
    rfl

/-! ### The last separator -/

variable {separator : Char}

theorem bne_of_not_mem (h : separator ∉ s) : ∀ c ∈ s.reverse, (c != separator) = true := by
  intro c hc
  exact bne_iff_ne.mpr fun heq => h (heq ▸ List.mem_reverse.mp hc)

theorem afterLast_of_not_mem (h : separator ∉ s) : afterLast separator s = s := by
  rw [afterLast, List.takeWhile_eq_self_iff.mpr (bne_of_not_mem h), List.reverse_reverse]

theorem afterLast_append (h : separator ∉ after) (before : List Char) :
    afterLast separator (before ++ separator :: after) = after := by
  rw [afterLast, List.reverse_append, List.reverse_cons, List.append_assoc,
    List.takeWhile_append_of_pos (bne_of_not_mem h), List.singleton_append, List.takeWhile_cons]
  simp

/-- A text that holds a separator holds a last one. -/
theorem exists_afterLast (h : separator ∈ s) :
    ∃ before after, s = before ++ separator :: after ∧ separator ∉ after := by
  obtain ⟨after, before, hs, hafter⟩ := List.eq_append_cons_of_mem (List.mem_reverse.mpr h)
  refine ⟨before.reverse, after.reverse, ?_, fun h => hafter (List.mem_reverse.mp h)⟩
  rw [← List.reverse_reverse s, hs]
  simp

theorem bne_comp {f : Char → Char} (h : ∀ c, f c = separator ↔ c = separator) :
    (fun c => c != separator) ∘ f = fun c => c != separator := by
  funext c
  simp [bne, beq_eq_decide, h]

/-- A change of characters that makes or breaks no separator leaves the last one in its place. -/
theorem afterLast_map {f : Char → Char} (h : ∀ c, f c = separator ↔ c = separator)
    (s : List Char) : afterLast separator (s.map f) = (afterLast separator s).map f := by
  rw [afterLast, afterLast, ← List.map_reverse, List.takeWhile_map, bne_comp h, List.map_reverse]

end Stencil.Text
