import Mathlib.Tactic.SplitIfs
import Stencil.Proofs.Result
import Stencil.Proofs.Template.Forward
import Stencil.Template.Outline

/-!
Where the reading of a template breaks down. The grammar fails with faults of the template, or since
expressions are nested too far; any other failure is that of the cut, and the cut fails in such a
way only at a numeral that is not converted.
-/
namespace Stencil.Template

open Text Reading

/-! ### Statements -/

instance : Forward nameTarget := by unfold nameTarget; infer_instance

instance (word : Option Word) : Forward (skipContext word) := by unfold skipContext; infer_instance

instance : Forward contextClause := by unfold contextClause; infer_instance

instance : Forward forHead := by
  unfold forHead
  refine forward_bind inferInstance fun _ => forward_bind inferInstance fun _ =>
    forward_bind inferInstance fun _ => forward_bind inferInstance fun condition => ?_
  dsimp only
  split <;> infer_instance

instance : Forward setHead := by unfold setHead; infer_instance

instance : Forward withHead := by
  unfold withHead
  dsimp only
  have item : Forward (do
      let _ ← target false
      expectOperator .assign
      let _ ← expression true
      return some false : Reading (Option Bool)) := inferInstance
  have step (first : Bool) : Forward (do
      if ← atEnd then return none
      if !first then expectOperator .comma
      let _ ← target false
      expectOperator .assign
      let _ ← expression true
      return some false : Reading (Option Bool)) := by
    dsimp only
    infer_instance
  infer_instance

instance : Forward printHead := by unfold printHead; dsimp only; infer_instance

instance : Forward includeHead := by unfold includeHead; dsimp only; infer_instance

instance : Forward importHead := by unfold importHead; infer_instance

instance : Forward skipContextAfterName := by
  unfold skipContextAfterName
  refine forward_bind inferInstance fun word => ?_
  split <;> infer_instance

instance : Forward importedName := by
  unfold importedName
  have last : Forward (do
      if ← skipContextAfterName then return false
      atOperator .comma : Reading Bool) := inferInstance
  have renamed : Forward (do
      if ← skipName "as" then discard nameTarget
      if ← skipContextAfterName then return false
      atOperator .comma : Reading Bool) := by
    dsimp only
    infer_instance
  refine forward_bind inferInstance fun word => ?_
  dsimp only at renamed ⊢
  split
  · refine forward_bind inferInstance fun word => forward_bind inferInstance fun context => ?_
    split
    · infer_instance
    · refine forward_bind inferInstance fun ⟨name, line⟩ => ?_
      dsimp only
      split <;> infer_instance
  · infer_instance

instance : Forward fromHead := by
  unfold fromHead
  refine forward_bind inferInstance fun _ => forward_bind inferInstance fun _ =>
    forward_bind (forward_repeating (fun ⟨first, more⟩ => ?_) _) fun _ => inferInstance
  dsimp only
  infer_instance

instance : Forward blockHead := by unfold blockHead; dsimp only; infer_instance

instance : Forward parameters := by
  unfold parameters
  refine forward_bind inferInstance fun _ =>
    forward_bind (forward_repeating (fun ⟨first, defaults⟩ => ?_) _) fun _ => inferInstance
  have value : Forward (do
      let _ ← nameTarget
      if ← skipOperator .assign then
        let _ ← expression true
        return some (false, true)
      else if defaults then fail .missingDefault
      else return some (false, false) : Reading (Option (Bool × Bool))) := inferInstance
  dsimp only
  infer_instance

instance (line : Nat) : Forward (callHead line) := by unfold callHead; dsimp only; infer_instance

/-- Every statement is read by a reader of this kind. -/
theorem forward_statement {name : String} {line : Nat} {head : Reading (Option Opening)}
    (h : statement name line = some head) : Forward head := by
  unfold statement at h
  dsimp only at h
  split at h <;> cases h <;> infer_instance

instance : Forward openingEnd := by unfold openingEnd; infer_instance

instance (b : OpenBlock) (others : List OpenBlock) (items : List Item) (s : Statement) :
    Forward (continueBlock b others items s) := by
  unfold continueBlock
  refine forward_bind inferInstance fun _ => ?_
  split
  · infer_instance
  · infer_instance
  · infer_instance
  · dsimp only
    cases b.opening.label <;> infer_instance

instance (p : Progress) (s : Statement) (nameLine : Nat) :
    Forward (beginStatement p s nameLine) := by
  unfold beginStatement
  split
  · infer_instance
  · rename_i head hs
    have hhead := forward_statement hs
    refine forward_bind inferInstance fun _ => forward_bind inferInstance fun opening => ?_
    split <;> infer_instance

instance (p : Progress) (line : Nat) : Forward (tagGroup p line) := by
  unfold tagGroup
  refine forward_bind inferInstance fun _ => forward_bind inferInstance fun symbol => ?_
  split
  · refine forward_bind inferInstance fun symbols => ?_
    dsimp only
    split <;> infer_instance
  · infer_instance

instance (p : Progress) (line : Nat) : Forward (outputGroup p line) := by
  unfold outputGroup; infer_instance

/-! ### Pieces -/

theorem failure_run {r : Reading α} [Forward r] {edge : Edge} {symbols : List Symbol}
    {f : Failure} (h : r.run edge symbols = .error f) : f.Expected ∨ edge.failure? = some f :=
  Forward.failure (r := r) (map_error.mp h)

/-- What a group knows of what follows it is the failure of the cut. -/
theorem failure_groupEdge {kind : Delimiter} {closing : Option Nat} {lastLine : Nat}
    {isLast : Bool} {failure : Option Failure} {f : Failure}
    (h : (groupEdge kind closing lastLine isLast failure).failure? = some f) :
    failure = some f := by
  rw [groupEdge.eq_def] at h
  cases closing with
  | some line =>
    cases isLast with
    | true => exact h
    | false => cases h
  | none =>
    cases failure with
    | some failure => exact h
    | none => cases h

theorem failure_add {p : Progress} {piece : Piece} {isLast : Bool} {failure : Option Failure}
    {f : Failure} (h : p.add piece isLast failure = .error f) :
    f.Expected ∨ failure = some f := by
  cases piece with
  | text line s => cases h
  | group kind line symbols closing =>
    cases kind with
    | tag => exact (failure_run (r := tagGroup p line) h).imp_right failure_groupEdge
    | output => exact (failure_run (r := outputGroup p line) h).imp_right failure_groupEdge

theorem failure_addAll {p : Progress} {failure : Option Failure} {pieces : List Piece}
    {f : Failure} (h : p.addAll failure pieces = .error f) : f.Expected ∨ failure = some f := by
  induction pieces generalizing p with
  | nil => cases h
  | cons piece rest ih =>
    rw [Progress.addAll] at h
    split at h
    · rename_i e he
      cases h
      exact failure_add he
    · exact ih h

/-- A template that is not accepted is at fault, is nested too far, or cannot be cut. -/
theorem failure_outline {source : Cut} {f : Failure} (h : outline source = .error f) :
    f.Expected ∨ source.failure = some f := by
  rw [outline] at h
  split at h
  · rename_i e he
    cases h
    exact failure_addAll he
  · split at h
    · rename_i failure hf
      cases h
      exact .inr hf
    · split at h <;> cases h
      exact .inl trivial

/-! ### Numerals -/

/-- A text begins with a numeral that is not converted: a whole number of too many digits, or a
number with a fraction or an exponent and a digit outside ASCII. -/
inductive Unconverted (s : List Char) : Failure → Prop where
  | long (h : Json.maxDigits < ((s.take (integerLength s)).filter (· != '_')).length) :
    Unconverted s .tooManyDigits
  | foreign (c : Char) (h : c ∈ s.take (floatLength s)) (hc : 0x80 ≤ c.toNat) :
    Unconverted s .foreignDigit

theorem failure_integerValue {numeral : List Char} {f : Failure}
    (h : integerValue numeral = .error f) :
    f = .tooManyDigits ∧ Json.maxDigits < (numeral.filter (· != '_')).length := by
  rw [integerValue.eq_def] at h
  dsimp only at h
  split at h
  · rename_i base rest hdigits
    split_ifs at h with _ _ _ hlong
    cases h
    exact ⟨rfl, hdigits ▸ hlong⟩
  · split_ifs at h with hlong
    cases h
    exact ⟨rfl, hlong⟩

theorem failure_floatValue {numeral : List Char} {f : Failure}
    (h : floatValue numeral = .error f) :
    f = .foreignDigit ∧ ∃ c ∈ numeral, 0x80 ≤ c.toNat := by
  rw [floatValue] at h
  dsimp only at h
  split at h
  · rename_i hc
    cases h
    obtain ⟨c, hmem, hc⟩ := List.any_eq_true.mp hc
    exact ⟨rfl, c, (List.mem_filter.mp hmem).1, of_decide_eq_true hc⟩
  · cases h

theorem failure_readWord {names : CharacterNames} {place : Place} {s : List Char} {f : Failure}
    (h : readWord names place s = .error f) : f.Expected ∨ Unconverted s f := by
  rw [readWord.eq_def] at h
  dsimp only at h
  generalize hlength : (if place.afterDot then 0 else floatLength s) = length at h
  by_cases hfloat : 0 < length
  · rw [if_pos hfloat] at h
    have hend : length = floatLength s := by
      rw [← hlength] at hfloat ⊢
      split
      · rename_i hdot
        simp [hdot] at hfloat
      · rfl
    obtain ⟨rfl, c, hmem, hc⟩ := failure_floatValue (map_error.mp h)
    exact .inr (.foreign c (hend ▸ hmem) hc)
  · rw [if_neg hfloat] at h
    split at h
    · obtain ⟨rfl, hlong⟩ := failure_integerValue (map_error.mp h)
      exact .inr (.long hlong)
    · left
      split at h
      · split at h <;> cases h
        trivial
      · split at h
        · cases h
          trivial
        · split at h
          · split at h <;> cases h
            trivial
          · split at h <;> cases h
            trivial

theorem failure_step {names : CharacterNames} {mode : Mode} {place : Place} {s : List Char}
    {f : Failure} (h : mode.step names place s = .stop f) : f.Expected ∨ Unconverted s f := by
  cases mode with
  | text =>
    rw [Mode.step, textStep] at h
    split at h <;> cases h
  | comment =>
    rw [Mode.step, commentStep] at h
    split at h <;> cases h
    exact .inl trivial
  | raw =>
    rw [Mode.step, rawStep] at h
    split at h <;> cases h
    exact .inl trivial
  | inside kind line closers symbols =>
    rw [Mode.step, groupStep.eq_def] at h
    split at h
    · cases h
    · split at h
      · cases h
      · split at h
        · rename_i e he
          cases h
          exact failure_readWord he
        · split at h <;> cases h
          exact .inl trivial
        · cases h

/-- The source cannot be cut at a fault, or at a numeral that is not converted. -/
theorem failure_cutFrom {names : CharacterNames} {mode : Mode} {place : Place} {pending : Nat}
    {s : List Char} {f : Failure} (h : (cutFrom names mode place pending s).failure = some f) :
    f.Expected ∨ ∃ rest, rest <:+ s ∧ Unconverted rest f := by
  induction s generalizing mode place pending with
  | nil => cases pending <;> cases h
  | cons c rest ih =>
    have hlater : (f.Expected ∨ ∃ later, later <:+ rest ∧ Unconverted later f) →
        f.Expected ∨ ∃ later, later <:+ c :: rest ∧ Unconverted later f :=
      Or.imp_right fun ⟨later, hl, hu⟩ => ⟨later, hl.trans (List.suffix_cons c rest), hu⟩
    cases pending with
    | succ pending => exact hlater (ih h)
    | zero =>
      rw [cutFrom] at h
      split at h
      · rename_i failure hstep
        cases h
        exact (failure_step hstep).imp_right fun hu => ⟨_, List.suffix_rfl, hu⟩
      · exact hlater (ih h)

end Stencil.Template
