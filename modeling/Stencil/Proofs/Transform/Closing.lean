import Stencil.Proofs.Transform.Operation

/-!
When a file is closed for good. A file that was given up refuses every later request, and so does a
template whose end gave a result or an error of the template. A breakdown leaves the template open
and empty, as if nothing had been written; a file that passes through stays open whatever is asked
of it, until it is given up.
-/
namespace Stencil

open Text Options

/-- The compilation gave neither a result nor an error of the template. -/
def Compiled.BrokeDown (c : Compiled σ) : Prop := ∃ b, c.result = .error (.breakdown b)

instance : DecidablePred TransformState.IsSettled
  | .finished | .failed | .aborted => isTrue trivial
  | .passthrough | .buffering => isFalse id

instance (c : Compiled σ) : Decidable c.BrokeDown :=
  match h : c.result with
  | .error (.breakdown b) => isTrue ⟨b, h⟩
  | .error (.error _) => isFalse fun ⟨_, hb⟩ => by simp [h] at hb
  | .ok _ => isFalse fun ⟨_, hb⟩ => by simp [h] at hb

namespace FileTransform

variable {compile : Compiler σ} {t : FileTransform}

/-- The answer tells of a breakdown. -/
def Ran.BrokeDown (r : Ran σ) : Prop := ∃ b, r.error = some (.compilation (.breakdown b))

/-- Whatever is done first, a later request is refused and nothing comes out. Giving the file up is
no request. -/
def Refuses (ι : Type) (compile : Compiler σ) (t : FileTransform) (compiler : σ) : Prop :=
  ∀ (later : List (Operation ι × BuildConfig)) (next : Operation ι) (config : BuildConfig),
    next ≠ .abort →
      let now := afterAll compile t compiler later
      let r := now.1.perform compile now.2 config next
      r.emitted = [] ∧ ∃ request, r.error = some (.misuse request now.1.state)

/-- An end after which the file is finished or failed, and refuses every later request. -/
def ClosedBy (ι : Type) (compile : Compiler σ) (r : Ran σ) : Prop :=
  (r.transform.state = .finished ∨ r.transform.state = .failed) ∧
    Refuses ι compile r.transform r.compiler

theorem brokeDown_ended_iff (path : String) (c : Compiled σ) :
    (ended path c).BrokeDown ↔ c.BrokeDown := by
  rw [Ran.BrokeDown, Compiled.BrokeDown, ended]
  cases c.result with
  | ok fragment => simp
  | error failure => cases failure <;> simp

theorem ended_of_brokeDown (path : String) {c : Compiled σ} (h : c.BrokeDown) :
    (ended path c).transform = ⟨path, .buffering, []⟩ ∧ (ended path c).emitted = [] := by
  obtain ⟨b, hb⟩ := h
  rw [ended, hb]
  exact ⟨rfl, rfl⟩

theorem ended_of_not_brokeDown (path : String) {c : Compiled σ} (h : ¬c.BrokeDown) :
    (ended path c).transform.state = .finished ∨ (ended path c).transform.state = .failed := by
  rw [ended]
  cases hc : c.result with
  | ok fragment => exact .inl rfl
  | error failure =>
    cases failure with
    | error e => exact .inr rfl
    | breakdown b => exact absurd ⟨b, hc⟩ h

theorem isSettled_of_closed {state : TransformState} (h : state = .finished ∨ state = .failed) :
    state.IsSettled := by
  rcases h with rfl | rfl <;> trivial

/-- What an operation settles: everything, if it gives the file up, and a template, if it ends it
and does not break down. -/
theorem settled_perform_iff (compile : Compiler σ) (compiler : σ) (config : BuildConfig)
    (operation : Operation ι) :
    let r := t.perform compile compiler config operation
    r.transform.state.IsSettled ↔
      t.state.IsSettled ∨ operation = .abort ∨
        (t.state = .buffering ∧ operation.Ends ∧ ¬r.BrokeDown) := by
  intro r
  by_cases ha : operation = .abort
  · subst ha
    exact iff_of_true trivial (.inr (.inl rfl))
  cases hs : t.state with
  | passthrough =>
    simp only [r, perform_passthrough hs ha, hs]
    simp [TransformState.IsSettled, ha]
  | buffering =>
    by_cases hw : operation.IsWrite
    · have hends : ¬operation.Ends := by
        cases operation with
        | write => exact id
        | _ => cases hw
      simp only [r, perform_write hs hw, hs]
      simp [TransformState.IsSettled, ha, hends]
    · have hends := Operation.ends_of hw ha
      have hr : r = ended t.path (compilation compile t.path compiler config
          (t.chunks.reverse.flatten ++ operation.given.flatten)) :=
        perform_ended hs hends compiler config
      rw [hr, brokeDown_ended_iff]
      by_cases hb : (compilation compile t.path compiler config
          (t.chunks.reverse.flatten ++ operation.given.flatten)).BrokeDown
      · rw [(ended_of_brokeDown t.path hb).1]
        simp [TransformState.IsSettled, ha, hb]
      · exact iff_of_true (isSettled_of_closed (ended_of_not_brokeDown t.path hb))
          (.inr (.inr ⟨rfl, hends, hb⟩))
  | finished | failed | aborted =>
    have hsettled : t.state.IsSettled := by rw [hs]; trivial
    simp only [r, perform_settled compile hsettled ha, hs]
    simp [TransformState.IsSettled]

/-- An operation that does not settle a file leaves it in its state. -/
theorem state_perform (compile : Compiler σ) (compiler : σ) (config : BuildConfig)
    (operation : Operation ι)
    (h : ¬(t.perform compile compiler config operation).transform.state.IsSettled) :
    (t.perform compile compiler config operation).transform.state = t.state := by
  have hn := mt (settled_perform_iff compile compiler config operation).mpr h
  have ha : operation ≠ .abort := fun ha => hn (.inr (.inl ha))
  cases hs : t.state with
  | passthrough => rw [perform_passthrough hs ha, hs]
  | buffering =>
    by_cases hw : operation.IsWrite
    · rw [perform_write hs hw]
      exact hs
    · have hends := Operation.ends_of hw ha
      have hb := Classical.not_not.mp fun hb => hn (.inr (.inr ⟨hs, hends, hb⟩))
      rw [perform_ended hs hends] at hb ⊢
      rw [(ended_of_brokeDown t.path ((brokeDown_ended_iff _ _).mp hb)).1]
  | finished | failed | aborted => exact absurd (.inl (by rw [hs]; trivial)) hn

/-- A file is settled after operations if it was before, if it was given up, or if it is a template
and one of its ends did not break down. -/
theorem settled_afterAll_iff (compile : Compiler σ) (compiler : σ)
    (operations : List (Operation ι × BuildConfig)) :
    (afterAll compile t compiler operations).1.state.IsSettled ↔
      t.state.IsSettled ∨ (∃ p ∈ operations, p.1 = .abort) ∨
        (t.state = .buffering ∧
          ∃ p ∈ operations.zip (answers compile t compiler operations),
            p.1.1.Ends ∧ ¬p.2.BrokeDown) := by
  induction operations generalizing t compiler with
  | nil => simp [afterAll]
  | cons p rest ih =>
    have hstep := settled_perform_iff (t := t) compile compiler p.2 p.1
    rw [afterAll, answers, ih, List.zip_cons_cons]
    simp only [List.mem_cons, exists_eq_or_imp]
    by_cases hs : (t.perform compile compiler p.2 p.1).transform.state.IsSettled
    · rcases hstep.mp hs with ht | ha | ⟨hb, he⟩
      · exact iff_of_true (.inl hs) (.inl ht)
      · exact iff_of_true (.inl hs) (.inr (.inl (.inl ha)))
      · exact iff_of_true (.inl hs) (.inr (.inr ⟨hb, .inl he⟩))
    · obtain ⟨ht, ha, hend⟩ : ¬t.state.IsSettled ∧ p.1 ≠ .abort ∧ ¬(t.state = .buffering ∧
          p.1.Ends ∧ ¬(t.perform compile compiler p.2 p.1).BrokeDown) := by
        simpa only [not_or] using mt hstep.mpr hs
      rw [state_perform compile compiler p.2 p.1 hs]
      simp only [ht, ha, false_or]
      refine or_congr_right (and_congr_right fun hb => ?_)
      exact (or_iff_right fun he => hend ⟨hb, he⟩).symm

/-- A file refuses every later request if it is settled, and only then. -/
theorem refuses_iff (compile : Compiler σ) (compiler : σ) :
    Refuses ι compile t compiler ↔ t.state.IsSettled := by
  constructor
  · intro h
    obtain ⟨-, request, hr⟩ := h [] .finish {} (by simp)
    change (t.run compile compiler {} []).error = _ at hr
    cases hs : t.state with
    | passthrough => simp [run_passthrough hs] at hr
    | buffering =>
      rw [run_buffering compile hs, ended] at hr
      split at hr <;> simp at hr
    | finished | failed | aborted => trivial
  · intro h later next config hn now r
    have hnow : now.1.state.IsSettled := (settled_afterAll_iff compile compiler later).mpr (.inl h)
    simp only [r, perform_settled compile hnow hn]
    exact ⟨trivial, _, rfl⟩

instance (compile : Compiler σ) (compiler : σ) : Decidable (Refuses ι compile t compiler) :=
  decidable_of_iff _ (refuses_iff compile compiler).symm

theorem closedBy_iff_state (compile : Compiler σ) (r : Ran σ) :
    ClosedBy ι compile r ↔ r.transform.state = .finished ∨ r.transform.state = .failed :=
  and_iff_left_of_imp fun h => (refuses_iff compile r.compiler).mpr (isSettled_of_closed h)

instance (compile : Compiler σ) (r : Ran σ) : Decidable (ClosedBy ι compile r) :=
  decidable_of_iff _ (closedBy_iff_state compile r).symm

theorem closedBy_ended_iff (compile : Compiler σ) (path : String) (c : Compiled σ) :
    ClosedBy ι compile (ended path c) ↔ ¬c.BrokeDown := by
  rw [closedBy_iff_state]
  constructor
  · intro hclosed hb
    rw [(ended_of_brokeDown path hb).1] at hclosed
    simp at hclosed
  · exact ended_of_not_brokeDown path

/-- The end of a template closes it exactly if the compilation of all that was written does not
break down. After a breakdown the template is as it was when it was opened: nothing came out, what
was written is lost, and another end compiles what comes after it. -/
theorem closedBy_iff (compile : Compiler σ) (compiler : σ) (path : String) (o : TransformOptions)
    (config : BuildConfig) (he : Path.isEligible path o.resolveExtensions = true)
    (written : List (Operation ι × BuildConfig)) (hw : ∀ p ∈ written, p.1.IsWrite)
    (last : Operation ι) (hl : last.Ends) (current : BuildConfig) :
    let file := (opened path o config).1
    let before := afterAll compile file compiler written
    let bytes := (written.flatMap (·.1.given)).flatten ++ last.given.flatten
    let c := compilation compile path compiler current bytes
    let r := before.1.perform compile before.2 current last
    (ClosedBy ι compile r ↔ ¬c.BrokeDown) ∧
      (c.BrokeDown → r.transform = file ∧ r.emitted = [] ∧
        ∀ (again : Operation ι) (next : BuildConfig), again.Ends →
          r.transform.perform compile r.compiler next again =
            ended path (compilation compile path r.compiler next again.given.flatten)) := by
  intro file before bytes c r
  have hfile : file = ⟨path, .buffering, []⟩ := by simp only [file, opened_template config he]
  have hbefore : before =
      (⟨path, .buffering, (written.flatMap (·.1.given)).reverse⟩, compiler) := by
    simp only [before, hfile]
    rw [afterAll_writes compile rfl compiler written hw, List.append_nil]
  have hr : r = ended path c := by
    simp only [r, hbefore]
    rw [perform_ended rfl hl, List.reverse_reverse]
  rw [hr]
  refine ⟨closedBy_ended_iff compile path c, fun hb => ?_⟩
  obtain ⟨htransform, hemitted⟩ := ended_of_brokeDown path hb
  refine ⟨htransform.trans hfile.symm, hemitted, fun again next ha => ?_⟩
  rw [htransform, perform_ended rfl ha]
  rfl

/-- A template whose end gives a module, although its letters are cut. -/
theorem closedBy_iff_letters :
    let compile := Compiler.template ⟨fun _ source => .ok source, fun _ => none⟩
    let o : TransformOptions := { minify := some (some (.flag false)) }
    let written : List (Operation Bytes × BuildConfig) :=
      [(.write [0x61, 0xC3], {}), (.write [], {})]
    let last : Operation Bytes := .iterate [[0xA9]]
    let template := opened "a.twig" o {}
    let before := afterAll compile template.1 [] written
    Path.isEligible "a.twig" o.resolveExtensions = true ∧ (∀ p ∈ written, p.1.IsWrite) ∧
      last.Ends ∧ ClosedBy Bytes compile (before.1.perform compile before.2 template.2.1 last) := by
  intro compile o written last template before
  have he : Path.isEligible "a.twig" o.resolveExtensions = true := by decide +kernel
  have hw : ∀ p ∈ written, p.1.IsWrite := by simp [written, Operation.IsWrite]
  have hb : ¬(compilation compile "a.twig" [] template.2.1
      ((written.flatMap (·.1.given)).flatten ++ last.given.flatten)).BrokeDown := by decide +kernel
  refine ⟨he, hw, trivial, ?_⟩
  exact (closedBy_iff compile [] "a.twig" o {} he written hw last trivial template.2.1).1.mpr hb

/-- A whole number that is too long to be written is no error of the template. Its end leaves the
template open, and a second end makes a module of nothing. -/
theorem not_closedBy_long_integer :
    let compile := Compiler.template ⟨fun _ source => .ok source, fun _ => none⟩
    let template := opened "a.twig" { minify := some (some (.flag false)) } {}
    let source := "\x7b\x7b 0x".toList ++ List.replicate 3572 'f' ++ " \x7d\x7d".toList
    let first := template.1.perform compile [] template.2.1
      (.iterate [encodeUtf8 source] : Operation Bytes)
    let again := first.transform.perform compile first.compiler template.2.1
      (.finish : Operation Bytes)
    let text := "\nmodule.exports = Twig.twig(\x7b id: \"a.twig\", data:[], precompiled: true, " ++
      "allowInlineIncludes: true \x7d);"
    first.error = some (.compilation (.breakdown .tooManyDigits)) ∧
      first.transform.state = .buffering ∧ ¬ClosedBy Bytes compile first ∧
      again.error = none ∧ again.emitted = [encodeUtf8 text.toList] := by
  decide +kernel

/-- Once it has been ended or given up, a file refuses every later request in exactly two cases: it
was given up, or it is a template and one of its ends did not break down. -/
theorem refuses_afterAll_iff (compile : Compiler σ) (compiler : σ) (path : String)
    (o : TransformOptions) (config : BuildConfig) (operations : List (Operation ι × BuildConfig)) :
    let file := (opened path o config).1
    let now := afterAll compile file compiler operations
    Refuses ι compile now.1 now.2 ↔
      (∃ p ∈ operations, p.1 = .abort) ∨
        (Path.isEligible path o.resolveExtensions = true ∧
          ∃ p ∈ operations.zip (answers compile file compiler operations),
            p.1.1.Ends ∧ ¬p.2.BrokeDown) := by
  intro file now
  have hfile : ¬file.state.IsSettled ∧
      (file.state = .buffering ↔ Path.isEligible path o.resolveExtensions = true) := by
    cases he : Path.isEligible path o.resolveExtensions with
    | true => simp [file, opened_template config he, TransformState.IsSettled]
    | false => simp [file, opened_other config he, TransformState.IsSettled]
  rw [refuses_iff, settled_afterAll_iff, hfile.2]
  exact or_iff_right hfile.1

/-- A file that passes through takes a chunk after its end, and passes it on. -/
theorem not_refuses_ended_passthrough :
    let compile := Compiler.template ⟨fun _ source => .ok source, fun _ => none⟩
    let file := (opened "a.css" {} {}).1
    let now := afterAll compile file [] [((.finish : Operation Bytes), ({} : BuildConfig))]
    let late := now.1.perform compile now.2 {} (.write [0x78] : Operation Bytes)
    late.error = none ∧ late.emitted = [[0x78]] ∧ ¬Refuses Bytes compile now.1 now.2 := by
  decide +kernel

end FileTransform

end Stencil
