import Stencil.Proofs.Transform.Operation

/-!
Which files count as templates while they are worked on. Of a file, only its state tells whether it
is a template: everything but passing through counts. No request takes a file out of that state or
into it, and a breakdown leaves a template open; but a file that passes through and is given up
counts as a template from then on.
-/
namespace Stencil

open Text Options

namespace FileTransform

variable {compile : Compiler σ} {t : FileTransform}

theorem eligible_iff : t.eligible = true ↔ t.state ≠ .passthrough := by
  simp [eligible]

theorem eligible_opened (path : String) (o : TransformOptions) (config : BuildConfig) :
    (opened path o config).1.eligible = Path.isEligible path o.resolveExtensions := by
  cases he : Path.isEligible path o.resolveExtensions with
  | true => rw [opened_template config he, eligible_iff]; simp
  | false => rw [opened_other config he]; rfl

theorem eligible_ended (path : String) (c : Compiled σ) :
    (ended path c).transform.eligible = true := by
  rw [ended, eligible_iff]
  cases c.result with
  | ok fragment => simp
  | error failure => cases failure <;> simp

/-- After an operation a file counts as a template if it did before, or if it is given up. -/
theorem eligible_perform_iff (compile : Compiler σ) (compiler : σ) (config : BuildConfig)
    (operation : Operation ι) :
    (t.perform compile compiler config operation).transform.eligible = true ↔
      t.eligible = true ∨ operation = .abort := by
  by_cases ha : operation = .abort
  · subst ha
    exact iff_of_true rfl (.inr rfl)
  rw [or_iff_left ha]
  cases hs : t.state with
  | passthrough => rw [perform_passthrough hs ha]
  | buffering =>
    have ht : t.eligible = true := by rw [eligible_iff, hs]; simp
    refine iff_of_true ?_ ht
    by_cases hw : operation.IsWrite
    · rw [perform_write hs hw]
      exact ht
    · rw [perform_ended hs (Operation.ends_of hw ha)]
      exact eligible_ended t.path _
  | finished | failed | aborted =>
    have hsettled : t.state.IsSettled := by rw [hs]; trivial
    rw [perform_settled compile hsettled ha]

/-- After operations a file counts as a template if it did before, or if it was given up. -/
theorem eligible_afterAll_iff (compile : Compiler σ) (compiler : σ)
    (operations : List (Operation ι × BuildConfig)) :
    (afterAll compile t compiler operations).1.eligible = true ↔
      t.eligible = true ∨ ∃ p ∈ operations, p.1 = .abort := by
  induction operations generalizing t compiler with
  | nil => simp [afterAll]
  | cons p rest ih =>
    rw [afterAll, ih, eligible_perform_iff, or_assoc]
    simp

/-- A file goes on counting as what it was opened as, whatever is done with it, exactly if it is a
template or was never given up. -/
theorem eligible_eq_iff (compile : Compiler σ) (compiler : σ) (path : String)
    (o : TransformOptions) (config : BuildConfig) (operations : List (Operation ι × BuildConfig)) :
    let file := (opened path o config).1
    let now := (afterAll compile file compiler operations).1
    now.eligible = Path.isEligible path o.resolveExtensions ↔
      Path.isEligible path o.resolveExtensions = true ∨ ∀ p ∈ operations, p.1 ≠ .abort := by
  intro file now
  have hnow : now.eligible = true ↔
      Path.isEligible path o.resolveExtensions = true ∨ ∃ p ∈ operations, p.1 = .abort := by
    rw [← eligible_opened path o config]
    exact eligible_afterAll_iff compile compiler operations
  have hnever : (∀ p ∈ operations, p.1 ≠ .abort) ↔ ¬∃ p ∈ operations, p.1 = .abort := by
    simp only [ne_eq, not_exists, not_and]
  rw [Bool.eq_iff_iff, hnow, hnever]
  by_cases he : Path.isEligible path o.resolveExtensions = true
  · exact iff_of_true (iff_of_true (.inl he) he) (.inl he)
  · simp only [he, false_or, Bool.false_eq_true, iff_false]

/-- A style sheet that is given up counts as a template afterwards. -/
theorem not_eligible_eq_aborted :
    let compile := Compiler.template ⟨fun _ source => .ok source, fun _ => none⟩
    let file := (opened "a.css" {} {}).1
    let now := (afterAll compile file [] [((.abort : Operation Bytes), ({} : BuildConfig))]).1
    file.eligible = false ∧ now.eligible = true ∧
      now.eligible ≠ Path.isEligible "a.css" ({} : TransformOptions).resolveExtensions := by
  decide +kernel

end FileTransform

end Stencil
