import Stencil.Text.Lines

/-!
The lines of a text as a relation: a line, then a break in one of three ways and the lines that come
after it, or nothing more. Every text has lines in one way only, so a break can be written in each
of the three ways.
-/
namespace Stencil.Text

inductive Break where
  | crlf
  | cr
  | lf
  deriving DecidableEq, Repr

def Break.text : Break → List Char
  | .crlf => ['\r', '\n']
  | .cr => ['\r']
  | .lf => ['\n']

structure IsLine (s : List Char) : Prop where
  noReturn : '\r' ∉ s
  noFeed : '\n' ∉ s

/-- The text consists of lines, each but the last with a break behind it. A line feed right after a
carriage return belongs to the same break. -/
inductive SplitsInto : List Char → List (List Char) → Prop where
  | last {line : List Char} : IsLine line → SplitsInto line [line]
  | next {line rest : List Char} {ls : List (List Char)} (b : Break) : IsLine line →
      (b = .cr → rest.head? ≠ some '\n') → SplitsInto rest ls →
      SplitsInto (line ++ b.text ++ rest) (line :: ls)

variable {c : Char} {s line first rest : List Char} {ls others : List (List Char)}

theorem isLine_nil : IsLine [] := ⟨List.not_mem_nil, List.not_mem_nil⟩

theorem isLine_cons : IsLine (c :: line) ↔ (c ≠ '\r' ∧ c ≠ '\n') ∧ IsLine line := by
  constructor
  · rintro ⟨hreturn, hfeed⟩
    obtain ⟨hc, hline⟩ := List.ne_and_not_mem_of_not_mem_cons hreturn
    obtain ⟨hc', hline'⟩ := List.ne_and_not_mem_of_not_mem_cons hfeed
    exact ⟨⟨hc.symm, hc'.symm⟩, hline, hline'⟩
  · rintro ⟨⟨hc, hc'⟩, hline, hline'⟩
    exact ⟨List.not_mem_cons_of_ne_of_not_mem hc.symm hline,
      List.not_mem_cons_of_ne_of_not_mem hc'.symm hline'⟩

/-! ### The lines that a text is cut into -/

theorem lines_cons (hc : c ≠ '\r' ∧ c ≠ '\n') (h : lines rest = first :: others) :
    lines (c :: rest) = (c :: first) :: others := by
  obtain ⟨hreturn, hfeed⟩ := hc
  rw [lines, h]
  · exact fun _ heq _ => hreturn heq
  · exact hreturn
  · exact hfeed

theorem lines_break (b : Break) (h : b = .cr → rest.head? ≠ some '\n') :
    lines (b.text ++ rest) = [] :: lines rest := by
  cases b with
  | crlf => rfl
  | lf => rfl
  | cr =>
    have hfeed := h rfl
    rw [Break.text, List.singleton_append, lines]
    rintro others rfl
    exact hfeed rfl

theorem lines_append (hline : IsLine line) (h : lines rest = first :: others) :
    lines (line ++ rest) = (line ++ first) :: others := by
  induction line with
  | nil => exact h
  | cons c line ih =>
    obtain ⟨hc, hline⟩ := isLine_cons.mp hline
    exact lines_cons hc (ih hline)

theorem SplitsInto.lines_eq (h : SplitsInto s ls) : lines s = ls := by
  induction h with
  | @last line hline =>
    have hnil : lines [] = [[]] := rfl
    simpa using lines_append hline hnil
  | @next line rest ls b hline hb _ ih =>
    have hbreak : lines (b.text ++ rest) = [] :: ls := by
      rw [lines_break b hb, ih]
    rw [List.append_assoc, lines_append hline hbreak, List.append_nil]

theorem SplitsInto.cons (hc : c ≠ '\r' ∧ c ≠ '\n') (h : SplitsInto s (first :: others)) :
    SplitsInto (c :: s) ((c :: first) :: others) := by
  cases h with
  | last hline => exact .last (isLine_cons.mpr ⟨hc, hline⟩)
  | next b hline hb hrest => exact .next b (isLine_cons.mpr ⟨hc, hline⟩) hb hrest

/-- Every text has the lines that it is cut into. -/
theorem splitsInto_lines (s : List Char) : SplitsInto s (lines s) := by
  induction s using lines.induct with
  | case1 => exact .last isLine_nil
  | case2 rest ih => exact .next .crlf isLine_nil nofun ih
  | case3 rest hfeed ih =>
    rw [lines]
    · refine .next .cr isLine_nil (fun _ hhead => ?_) ih
      obtain ⟨others, rfl⟩ := List.head?_eq_some_iff.mp hhead
      exact hfeed others rfl
    · exact hfeed
  | case4 rest ih => exact .next .lf isLine_nil nofun ih
  | case5 c rest h₁ h₂ h₃ hnil ih =>
    rw [hnil] at ih
    cases ih
  | case6 c rest h₁ h₂ h₃ first others hcons ih =>
    have hc : c ≠ '\r' ∧ c ≠ '\n' := ⟨h₂, h₃⟩
    rw [lines_cons hc hcons]
    rw [hcons] at ih
    exact ih.cons hc

/-- A text has lines in one way only. -/
theorem splitsInto_iff : SplitsInto s ls ↔ lines s = ls := by
  constructor
  · exact SplitsInto.lines_eq
  · rintro rfl
    exact splitsInto_lines s

instance (s : List Char) (ls : List (List Char)) : Decidable (SplitsInto s ls) :=
  decidable_of_iff _ splitsInto_iff.symm

/-! ### One way to write every break -/

theorem SplitsInto.ne_nil (h : SplitsInto s ls) : ls ≠ [] := by
  cases h <;> exact List.cons_ne_nil _ _

theorem SplitsInto.isLine (h : SplitsInto s ls) : ∀ line ∈ ls, IsLine line := by
  induction h with
  | last hline => exact List.forall_mem_singleton.mpr hline
  | next b hline _ _ ih => exact List.forall_mem_cons.mpr ⟨hline, ih⟩

/-- If every break is a carriage return, no line feed is the first character. -/
theorem head?_intercalate (hls : ∀ line ∈ ls, IsLine line) :
    (Break.cr.text.intercalate ls).head? ≠ some '\n' := by
  cases ls with
  | nil => nofun
  | cons line others =>
    have hline : IsLine line := hls line List.mem_cons_self
    cases line with
    | nil => cases others <;> simp [Break.text, List.intercalate_cons_cons]
    | cons c line =>
      have hc : c ≠ '\n' := (isLine_cons.mp hline).1.2
      cases others <;> simpa [List.intercalate_cons_cons] using hc

theorem splitsInto_intercalate (b : Break) (hne : ls ≠ []) (hls : ∀ line ∈ ls, IsLine line) :
    SplitsInto (b.text.intercalate ls) ls := by
  induction ls with
  | nil => exact absurd rfl hne
  | cons line others ih =>
    obtain ⟨hline, hothers⟩ := List.forall_mem_cons.mp hls
    cases others with
    | nil =>
      rw [List.intercalate_singleton]
      exact .last hline
    | cons next others =>
      rw [List.intercalate_cons_cons]
      refine .next b hline ?_ (ih (List.cons_ne_nil next others) hothers)
      rintro rfl
      exact head?_intercalate hothers

end Stencil.Text
