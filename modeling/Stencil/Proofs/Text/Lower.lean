import Stencil.Text.Lower

/-!
Lower case. A text in lower case is its own lower-case form, and texts that differ in the case of
ASCII letters only have one lower-case form. Dots stay where they are, and nothing else becomes one.
-/
namespace Stencil.Text

/-! ### The table of capital letters -/

/-- The first and the last letter of a run, the step from one to the next, and the lower-case form
of the first. -/
abbrev CaseRun := Nat × Nat × Nat × Nat

/-- The code is the lower-case form of a letter of a run. -/
def CaseRun.Gives : CaseRun → Nat → Prop
  | (first, last, step, image), n => ∃ k, first + k ≤ last ∧ k % step = 0 ∧ n = image + k

/-- The lower-case forms of a run all lie above a code, or all below it. -/
def CaseRun.spares : CaseRun → Nat → Bool
  | (first, last, _, image), n => n < image || image + (last - first) < n

/-- None of the codes from `low` to `high` is a letter of some runs; if only every second code
counts, the letters may stand between those. -/
def isFree (low high : Nat) (alternating : Bool) : List CaseRun → Bool
  | [] => true
  | (first, last, step, _) :: rest =>
    if high < first then true
    else if last < low then isFree low high alternating rest
    else alternating && step == 2 && (low + first) % 2 == 1 && isFree low high alternating rest

def CaseRun.isFree : CaseRun → List CaseRun → Bool
  | (first, last, step, image) =>
    Text.isFree image (image + (last - first)) (step == 2 || first == last)

theorem CaseRun.ne_of_spares {run : CaseRun} {n m : Nat} (h : CaseRun.spares run n = true)
    (hm : CaseRun.Gives run m) : m ≠ n := by
  obtain ⟨first, last, step, image⟩ := run
  obtain ⟨k, hk, -, rfl⟩ := hm
  simp only [spares, Bool.or_eq_true, decide_eq_true_eq] at h
  omega

theorem lowerCode_of_isFree {low high n : Nat} {alternating : Bool} {runs : List CaseRun}
    (h : isFree low high alternating runs = true) (hlow : low ≤ n) (hhigh : n ≤ high)
    (heven : alternating = true → (n - low) % 2 = 0) : lowerCode runs n = n := by
  induction runs with
  | nil => rfl
  | cons run rest ih =>
    obtain ⟨first, last, step, image⟩ := run
    rw [isFree] at h
    rw [lowerCode]
    by_cases hbelow : n < first
    · rw [if_pos hbelow]
    rw [if_neg hbelow]
    split at h
    · omega
    · split at h
      · rw [if_neg (by simp; omega), ih h]
      · simp only [Bool.and_eq_true, beq_iff_eq] at h
        obtain ⟨⟨⟨halternating, rfl⟩, hodd⟩, hrest⟩ := h
        have hn := heven halternating
        rw [if_neg (by simp; omega), ih hrest]

theorem lowerCode_of_gives {run : CaseRun} {runs : List CaseRun} {n : Nat}
    (h : CaseRun.isFree run runs = true) (hn : CaseRun.Gives run n) : lowerCode runs n = n := by
  obtain ⟨first, last, step, image⟩ := run
  obtain ⟨k, hk, hstep, rfl⟩ := hn
  refine lowerCode_of_isFree h (Nat.le_add_right image k) (by omega) fun halternating => ?_
  simp only [Bool.or_eq_true, beq_iff_eq] at halternating
  rcases halternating with rfl | rfl <;> omega

theorem isFree_lowerRuns : (lowerRuns.all fun run => CaseRun.isFree run lowerRuns) = true := by
  decide +kernel

/-- The dot and the two letters that are not lowered by the table are the lower-case form of
nothing in it. -/
theorem spares_lowerRuns :
    (lowerRuns.all fun run => ['.', 'Σ', 'İ'].all fun c => CaseRun.spares run c.toNat) = true := by
  decide +kernel

theorem lowerCode_cases (runs : List CaseRun) (n : Nat) :
    lowerCode runs n = n ∨ ∃ run ∈ runs, CaseRun.Gives run (lowerCode runs n) := by
  induction runs with
  | nil => exact .inl rfl
  | cons run rest ih =>
    obtain ⟨first, last, step, image⟩ := run
    rw [lowerCode]
    split
    · exact .inl rfl
    · split
      · rename_i hlow hin
        simp only [Bool.and_eq_true, decide_eq_true_eq, beq_iff_eq] at hin
        exact .inr ⟨_, List.mem_cons_self, n - first, by omega, hin.2, rfl⟩
      · exact ih.imp_right fun ⟨run, hrun, hgives⟩ => ⟨run, List.mem_cons_of_mem _ hrun, hgives⟩

/-- What the table gives stands for itself in the table. -/
theorem lowerCode_lowerCode (n : Nat) :
    lowerCode lowerRuns (lowerCode lowerRuns n) = lowerCode lowerRuns n := by
  rcases lowerCode_cases lowerRuns n with h | ⟨run, hrun, hgives⟩
  · rw [h, h]
  · exact lowerCode_of_gives (List.all_eq_true.mp isFree_lowerRuns run hrun) hgives

theorem eq_of_lowerCode {c : Char} (hc : c ∈ ['.', 'Σ', 'İ']) {n : Nat}
    (h : lowerCode lowerRuns n = c.toNat) : n = c.toNat := by
  rcases lowerCode_cases lowerRuns n with h' | ⟨run, hrun, hgives⟩
  · rw [← h, h']
  · have hall := List.all_eq_true.mp spares_lowerRuns run hrun
    exact absurd h (CaseRun.ne_of_spares (List.all_eq_true.mp hall c hc) hgives)

/-! ### Characters -/

/-- The character is its own lower-case form. -/
def IsSmall (c : Char) : Prop := c ≠ 'Σ' ∧ c ≠ 'İ' ∧ lowerCode lowerRuns c.toNat = c.toNat

instance : DecidablePred IsSmall := fun _ => inferInstanceAs (Decidable (_ ∧ _))

def tableForm (c : Char) : Char := Char.ofNat (lowerCode lowerRuns c.toNat)

/-- What becomes of a character between two texts, of which the first is given nearest character
first. -/
def lowerForm (before : List Char) (c : Char) (rest : List Char) : List Char :=
  if c == 'Σ' then [if wordGoesOn before && !wordGoesOn rest then 'ς' else 'σ']
  else if c == 'İ' then ['i', Char.ofNat 0x307]
  else [tableForm c]

variable {before rest s t : List Char} {c d : Char}

theorem lowerAfter_cons (before : List Char) (c : Char) (rest : List Char) :
    lowerAfter before (c :: rest) = lowerForm before c rest ++ lowerAfter (c :: before) rest := rfl

/-- A character becomes a form of the sigma, the letter i with a dot, or what the table says. -/
theorem lowerForm_cases (before : List Char) (c : Char) (rest : List Char) :
    c = 'Σ' ∧ (lowerForm before c rest = ['ς'] ∨ lowerForm before c rest = ['σ']) ∨
      c = 'İ' ∧ lowerForm before c rest = ['i', Char.ofNat 0x307] ∨
      c ≠ 'Σ' ∧ c ≠ 'İ' ∧ lowerForm before c rest = [tableForm c] := by
  simp only [lowerForm, beq_iff_eq]
  split
  · refine .inl ⟨‹_›, ?_⟩
    split
    · exact .inl rfl
    · exact .inr rfl
  · split
    · exact .inr (.inl ⟨‹_›, rfl⟩)
    · exact .inr (.inr ⟨‹_›, ‹_›, rfl⟩)

/-- A code that no character has stands for the character with code zero. -/
theorem toNat_ofNat_cases (n : Nat) : (Char.ofNat n).toNat = n ∨ Char.ofNat n = '\x00' := by
  by_cases h : n.isValidChar
  · rw [Char.ofNat, dif_pos h]
    exact .inl rfl
  · rw [Char.ofNat, dif_neg h]
    exact .inr rfl

theorem eq_of_tableForm (hc : c ∈ ['.', 'Σ', 'İ']) (h : tableForm d = c) : d = c := by
  rcases toNat_ofNat_cases (lowerCode lowerRuns d.toNat) with hn | hzero
  · rw [tableForm] at h
    exact Char.toNat_inj.mp (eq_of_lowerCode hc (hn.symm.trans (congrArg Char.toNat h)))
  · rw [tableForm, hzero] at h
    subst h
    exact absurd hc (by decide)

theorem isSmall_tableForm (hs : c ≠ 'Σ') (hi : c ≠ 'İ') : IsSmall (tableForm c) := by
  refine ⟨mt (eq_of_tableForm (by decide)) hs, mt (eq_of_tableForm (by decide)) hi, ?_⟩
  rw [tableForm]
  rcases toNat_ofNat_cases (lowerCode lowerRuns c.toNat) with hn | hzero
  · rw [hn, lowerCode_lowerCode]
  · rw [hzero]
    decide +kernel

theorem isSmall_of_mem_lowerForm (h : d ∈ lowerForm before c rest) : IsSmall d := by
  rcases lowerForm_cases before c rest with ⟨-, hf | hf⟩ | ⟨-, hf⟩ | ⟨hs, hi, hf⟩ <;>
    rw [hf] at h <;> simp only [List.mem_cons, List.not_mem_nil, or_false] at h
  · subst h
    decide +kernel
  · subst h
    decide +kernel
  · rcases h with rfl | rfl <;> decide +kernel
  · exact h ▸ isSmall_tableForm hs hi

theorem isSmall_of_mem_lowerAfter (h : d ∈ lowerAfter before s) : IsSmall d := by
  induction s generalizing before with
  | nil => cases h
  | cons c rest ih =>
    rw [lowerAfter_cons] at h
    exact (List.mem_append.mp h).elim isSmall_of_mem_lowerForm ih

/-- A text of small characters stays as it is, whatever stands before it. -/
theorem lowerAfter_of_isSmall (h : ∀ c ∈ s, IsSmall c) : lowerAfter before s = s := by
  induction s generalizing before with
  | nil => rfl
  | cons c rest ih =>
    obtain ⟨⟨hs, hi, hcode⟩, hrest⟩ := List.forall_mem_cons.mp h
    have hform : lowerForm before c rest = [c] := by
      rw [lowerForm, if_neg (by simpa using hs), if_neg (by simpa using hi), tableForm, hcode,
        Char.ofNat_toNat]
    rw [lowerAfter_cons, hform, ih hrest]
    rfl

/-- A text in lower case stays as it is. -/
theorem lower_lower (s : String) : lower (lower s) = lower s := by
  rw [lower, lower, String.toList_ofList]
  exact congrArg String.ofList (lowerAfter_of_isSmall fun c hc => isSmall_of_mem_lowerAfter hc)

/-! ### Dots -/

theorem dot_mem_lowerForm : '.' ∈ lowerForm before c rest ↔ c = '.' := by
  rcases lowerForm_cases before c rest with ⟨rfl, hf | hf⟩ | ⟨rfl, hf⟩ | ⟨-, -, hf⟩ <;> rw [hf]
  · decide
  · decide
  · decide
  · rw [List.mem_singleton]
    constructor
    · exact fun h => eq_of_tableForm (by decide) h.symm
    · rintro rfl
      decide +kernel

theorem dot_mem_lowerAfter : '.' ∈ lowerAfter before s ↔ '.' ∈ s := by
  induction s generalizing before with
  | nil => rfl
  | cons c rest ih =>
    rw [lowerAfter_cons, List.mem_append, List.mem_cons, dot_mem_lowerForm, ih, eq_comm]

/-- A dot stays a dot. -/
theorem lowerForm_dot : lowerForm before '.' rest = ['.'] := by
  have htable : tableForm '.' = '.' := by decide +kernel
  rw [lowerForm, if_neg (by decide), if_neg (by decide), htable]

/-! ### ASCII letters -/

/-- What lower case depends on in a character is the same in another one. -/
def SameForm (c d : Char) : Prop :=
  (c = 'Σ' ↔ d = 'Σ') ∧ (c = 'İ' ↔ d = 'İ') ∧ tableForm c = tableForm d ∧
    casedRanges.contains c.toNat = casedRanges.contains d.toNat ∧
    caseIgnorableRanges.contains c.toNat = caseIgnorableRanges.contains d.toNat

instance : DecidableRel SameForm := fun _ _ => inferInstanceAs (Decidable (_ ∧ _))

/-- Only the capital letters of ASCII change. -/
theorem toLower_cases (c : Char) : c.toLower = c ∨ ∃ k < 26, c = Char.ofNat (65 + k) := by
  by_cases h : 'A'.val ≤ c.val ∧ c.val ≤ 'Z'.val
  · have hlow : 65 ≤ c.toNat := h.1
    have hhigh : c.toNat ≤ 90 := h.2
    refine .inr ⟨c.toNat - 65, by omega, ?_⟩
    rw [show 65 + (c.toNat - 65) = c.toNat by omega, Char.ofNat_toNat]
  · exact .inl (dif_neg h)

theorem toLower_eq_iff {separator : Char} (h : separator ∈ ['.', '/']) (c : Char) :
    c.toLower = separator ↔ c = separator := by
  have hletters : ∀ k < 26,
      (Char.ofNat (65 + k)).toLower ∉ ['.', '/'] ∧ Char.ofNat (65 + k) ∉ ['.', '/'] := by
    decide
  rcases toLower_cases c with hc | ⟨k, hk, rfl⟩
  · rw [hc]
  · obtain ⟨hsmall, hcapital⟩ := hletters k hk
    exact iff_of_false (ne_of_mem_of_not_mem h hsmall).symm (ne_of_mem_of_not_mem h hcapital).symm

theorem sameForm_letters :
    ∀ k < 26, SameForm (Char.ofNat (65 + k)).toLower (Char.ofNat (65 + k)) := by
  decide +kernel

theorem sameForm_toLower (c : Char) : SameForm c.toLower c := by
  rcases toLower_cases c with h | ⟨k, hk, rfl⟩
  · rw [h]
    exact ⟨Iff.rfl, Iff.rfl, rfl, rfl, rfl⟩
  · exact sameForm_letters k hk

theorem wordGoesOn_map_toLower (s : List Char) :
    wordGoesOn (s.map Char.toLower) = wordGoesOn s := by
  induction s with
  | nil => rfl
  | cons c rest ih =>
    obtain ⟨-, -, -, hcased, hignorable⟩ := sameForm_toLower c
    rw [List.map_cons, wordGoesOn, wordGoesOn, hcased, hignorable, ih]

theorem lowerAfter_map_toLower (before s : List Char) :
    lowerAfter (before.map Char.toLower) (s.map Char.toLower) = lowerAfter before s := by
  induction s generalizing before with
  | nil => rfl
  | cons c rest ih =>
    obtain ⟨hs, hi, htable, -, -⟩ := sameForm_toLower c
    have hform : lowerForm (before.map Char.toLower) c.toLower (rest.map Char.toLower) =
        lowerForm before c rest := by
      simp only [lowerForm, beq_iff_eq, hs, hi, htable, wordGoesOn_map_toLower]
    rw [List.map_cons, lowerAfter_cons, lowerAfter_cons, hform, ← ih (c :: before), List.map_cons]

theorem toList_toLower (s : String) : s.toLower.toList = s.toList.map Char.toLower :=
  String.toList_map

theorem toLower_eq_toLower {s t : String} :
    s.toLower = t.toLower ↔ s.toList.map Char.toLower = t.toList.map Char.toLower := by
  rw [← String.toList_inj, toList_toLower, toList_toLower]

theorem lower_toLower (s : String) : lower s.toLower = lower s := by
  rw [lower, toList_toLower]
  exact congrArg String.ofList (lowerAfter_map_toLower [] s.toList)

/-- Texts that differ in the case of ASCII letters only are the same in lower case. -/
theorem lower_eq_of_toLower {s t : String} (h : s.toLower = t.toLower) : lower s = lower t := by
  rw [← lower_toLower s, h, lower_toLower t]

end Stencil.Text
