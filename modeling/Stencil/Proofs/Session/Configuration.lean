import Stencil.Proofs.Options.Known
import Stencil.Proofs.Session.Step
import Stencil.Proofs.Transform.Operation

/-!
The configurations of a session. Only merges, resets and the opening of templates touch a
configuration, and in each of its fields the last touch that says something wins.
-/
namespace Stencil.Session

open Text Options

/-- What a step does to a configuration: it supplies options, or sets it back. -/
inductive Touch where
  | supplied (o : TransformOptions)
  | reset

namespace Touch

def apply (c : BuildConfig) : Touch → BuildConfig
  | supplied o => c.merge o
  | reset => {}

/-- What a touch says of minification: settings switch it on, both plain answers switch it off. -/
def minify? : Touch → Option (Option MinifyOptions)
  | supplied o =>
    match o.minify with
    | some (some (.settings settings)) => some (some settings)
    | some (some (.flag _)) => some none
    | _ => none
  | reset => some (some .default)

/-- What a touch says of the names of templates. -/
def relativePath? : Touch → Option Bool
  | supplied o => o.relativePath.bind id
  | reset => some false

/-- What a touch says of aliases; null says that there are none. -/
def replacePaths? : Touch → Option (Option Aliases)
  | supplied o => o.replacePaths
  | reset => some none

/-- What the last touch says that says anything, or else what was there before. -/
def latest (says? : Touch → Option α) (touches : List Touch) (before : α) : α :=
  (touches.filterMap says?).getLast?.getD before

theorem latest_cons (says? : Touch → Option α) (t : Touch) (touches : List Touch) (before : α) :
    latest says? (t :: touches) before = latest says? touches ((says? t).getD before) := by
  rw [latest, latest, List.filterMap_cons]
  cases says? t with
  | none => rfl
  | some a => rw [List.getLast?_cons, Option.getD_some, Option.getD_some]

theorem apply_eq (c : BuildConfig) (t : Touch) :
    t.apply c = ⟨t.minify?.getD c.minify, t.relativePath?.getD c.relativePath,
      t.replacePaths?.getD c.replacePaths⟩ := by
  cases t with
  | reset => rfl
  | supplied o =>
    have hminify : BuildConfig.mergeMinify c.minify o.minify =
        (supplied o).minify?.getD c.minify := by
      simp only [minify?]
      match o.minify with
      | none | some none | some (some (.settings _)) | some (some (.flag _)) => rfl
    rw [apply, BuildConfig.merge, hminify]
    rfl

/-- After any touches, each field is what the last of them says that says something of it. -/
theorem foldl_apply (touches : List Touch) (c : BuildConfig) :
    touches.foldl apply c =
      ⟨latest minify? touches c.minify, latest relativePath? touches c.relativePath,
        latest replacePaths? touches c.replacePaths⟩ := by
  induction touches generalizing c with
  | nil => rfl
  | cons t rest ih => rw [List.foldl_cons, ih, apply_eq, latest_cons, latest_cons, latest_cons]

end Touch

namespace World

variable {tools : Toolkit} {w : World} {s : Step} {n : Nat}

/-- What a step does to a configuration, if it can be taken and touches it. -/
def touch? (w : World) (n : Nat) : Step → Option Touch
  | .merge config options =>
    match w.findConfig (some config), readOptions options with
    | .ok m, .ok o => if m = n then some (.supplied o) else none
    | _, _ => none
  | .reset config =>
    match w.findConfig config with
    | .ok m => if m = n then some .reset else none
    | .error _ => none
  | .openFile _ path opening config =>
    match w.origin config opening with
    | .ok (_, f) =>
      if f.config = n ∧ Path.isEligible path f.options.resolveExtensions = true then
        some (.supplied f.options)
      else none
    | .error _ => none
  | _ => none

theorem touch?_refused {e : StepError} (h : w.attempt tools s = .error e) :
    w.touch? n s = none := by
  cases s with
  | merge config options =>
    simp only [touch?]
    split
    · simp_all [attempt, bind, Except.bind, pure, Except.pure]
    · rfl
  | reset config =>
    simp only [touch?]
    split
    · simp_all [attempt, bind, Except.bind, pure, Except.pure]
    · rfl
  | openFile name path opening config =>
    simp only [touch?]
    split
    · simp_all [attempt, bind, Except.bind, pure, Except.pure]
    · rfl
  | _ => rfl

theorem touch?_operation {name : String} {operation : Operation Bytes}
    (h : s.operation? = some (name, operation)) : w.touch? n s = none := by
  cases s with
  | merge | reset | openFile => cases h
  | _ => rfl

theorem configs_setConfig (w : World) (m n : Nat) (c : BuildConfig) :
    (w.setConfig m c).configs n = if n = m then c else w.configs n := rfl

/-- Opening a template merges its options; opening any other file merges nothing. -/
theorem configs_openWith (w : World) (name path : String) (f : Factory) (n : Nat) :
    (w.openWith name path f).1.configs n =
      if f.config = n ∧ Path.isEligible path f.options.resolveExtensions = true then
        (w.configs n).merge f.options
      else w.configs n := by
  cases he : Path.isEligible path f.options.resolveExtensions with
  | true =>
    rw [openWith_eq, FileTransform.opened_template _ he]
    simp only [configs_setConfig]
    by_cases hn : n = f.config
    · subst hn
      simp
    · simp [hn, Ne.symm hn]
  | false =>
    rw [openWith_eq, FileTransform.opened_other _ he]
    simp only [configs_setConfig]
    by_cases hn : n = f.config
    · subst hn
      simp
    · simp [hn]

/-- A step does to a configuration what it touches it with, and nothing else. -/
theorem configs_step (tools : Toolkit) (hs : ¬s.Names) :
    (w.step tools s).1.configs n = (w.touch? n s).toList.foldl Touch.apply (w.configs n) := by
  have heffect := effect_step tools w s
  generalize w.step tools s = result at heffect
  cases heffect with
  | refused h => simp [touch?_refused h]
  | newConfig | newFactory => exact absurd trivial hs
  | operation h hf => simp [touch?_operation h, afterRun]
  | merge hm ho =>
    rename_i m o
    simp only [configs_setConfig, touch?, hm, ho]
    by_cases h : m = n
    · simp [h, Touch.apply]
    · simp [h, Ne.symm h]
  | reset hm =>
    rename_i m
    simp only [configs_setConfig, touch?, hm]
    by_cases h : m = n
    · simp [h, Touch.apply]
    · simp [h, Ne.symm h]
  | openFile h =>
    rename_i name path opening config w' f
    have hconfigs : w'.configs n = w.configs n := by rcases origin_ok h with rfl | rfl <;> rfl
    simp only [configs_openWith, hconfigs, touch?, h]
    split <;> rfl

/-- New configurations and factories leave the ones that are there alone. -/
theorem configs_names (tools : Toolkit) (hs : s.Names) (hn : n < w.configCount) :
    (w.step tools s).1.configs n = w.configs n := by
  have heffect := effect_step tools w s
  generalize w.step tools s = result at heffect
  cases heffect with
  | refused h => rfl
  | newConfig h => exact update_other _ _ (by omega)
  | newFactory h =>
    obtain ⟨-, -, -, -, rfl, -⟩ := bound_ok.mp h
    rfl
  | merge | reset | openFile => cases hs
  | operation h hf => rfl

/-- Configurations are never given up. -/
theorem configCount_step (tools : Toolkit) (w : World) (s : Step) :
    w.configCount ≤ (w.step tools s).1.configCount := by
  have heffect := effect_step tools w s
  generalize w.step tools s = result at heffect
  cases heffect with
  | newConfig h => exact Nat.le_succ _
  | newFactory h =>
    obtain ⟨-, -, -, -, rfl, -⟩ := bound_ok.mp h
    exact Nat.le_refl _
  | openFile h =>
    rw [openWith_eq]
    rcases origin_ok h with rfl | rfl <;> exact Nat.le_refl _
  | _ => exact Nat.le_refl _

/-- What the steps of a session do to a configuration, in order. -/
def touches (tools : Toolkit) (w : World) (n : Nat) (steps : List Step) : List Touch :=
  (w.trace tools steps).filterMap fun (w, s) => w.touch? n s

theorem touch?_names (hs : s.Names) : w.touch? n s = none := by
  cases s with
  | newConfig | newFactory => rfl
  | _ => cases hs

theorem touches_cons (tools : Toolkit) (w : World) (n : Nat) (s : Step) (rest : List Step) :
    w.touches tools n (s :: rest) =
      (w.touch? n s).toList ++ (w.step tools s).1.touches tools n rest := by
  simp only [touches, trace, List.filterMap_cons]
  cases w.touch? n s <;> rfl

/-- A configuration is what its touches have made of it. -/
theorem configs_run (tools : Toolkit) (steps : List Step) (hn : n < w.configCount) :
    (w.run tools steps).configs n =
      (w.touches tools n steps).foldl Touch.apply (w.configs n) := by
  induction steps generalizing w with
  | nil => rfl
  | cons s rest ih =>
    have hnext := ih (Nat.lt_of_lt_of_le hn (configCount_step tools w s))
    rw [run, hnext, touches_cons, List.foldl_append]
    by_cases hs : s.Names
    · rw [touch?_names hs, configs_names tools hs hn]
      rfl
    · rw [configs_step tools hs]

end World

/-- A way to open a file, without entries of unknown names. -/
def Opening.known : Opening → Opening
  | .single options => .single (TransformOptions.known options)
  | .direct options => .direct (options.map TransformOptions.known)
  | opening => opening

/-- A step without entries of unknown names in its documents. -/
def Step.known : Step → Step
  | .newConfig name entries => .newConfig name (knownEntries BuildConfig.fieldNames entries)
  | .merge config options => .merge config (TransformOptions.known options)
  | .newFactory name options config => .newFactory name (TransformOptions.known options) config
  | .openFile name path opening config => .openFile name path opening.known config
  | s => s

namespace World

theorem readOptions_known (options : Value) :
    readOptions (TransformOptions.known options) = readOptions options := by
  rw [readOptions, TransformOptions.readOptional_known, readOptions]

theorem bound_known (w : World) (options : Value) (config : Option String) :
    w.bound (TransformOptions.known options) config = w.bound options config := by
  rw [bound, readOptions_known, bound]

theorem origin_known (w : World) (config : Option String) (opening : Opening) :
    w.origin config opening.known = w.origin config opening := by
  cases opening with
  | factory name => rfl
  | single options => exact bound_known w options config
  | direct options =>
    cases options with
    | none => rfl
    | some options => exact bound_known w options config

theorem step_known (tools : Toolkit) (w : World) (s : Step) :
    w.step tools s.known = w.step tools s := by
  have hattempt : w.attempt tools s.known = w.attempt tools s := by
    cases s with
    | newConfig name entries => simp only [Step.known, attempt, BuildConfig.read_known]
    | merge config options => simp only [Step.known, attempt, readOptions_known]
    | newFactory name options config => simp only [Step.known, attempt, bound_known]
    | openFile name path opening config => simp only [Step.known, attempt, origin_known]
    | _ => rfl
  rw [step, hattempt, step]

theorem run_known (tools : Toolkit) (w : World) (steps : List Step) :
    w.run tools (steps.map Step.known) = w.run tools steps := by
  induction steps generalizing w with
  | nil => rfl
  | cons s rest ih => rw [List.map_cons, run, run, step_known, ih]

/-- A step that does not touch any configuration: an operation on a file, a step that is rejected,
or the opening of a file that is no template. -/
inductive Idle (tools : Toolkit) (w : World) : Step → Prop
  | operation {s performed} (h : s.operation? = some performed) : Idle tools w s
  | rejected {s e} (h : (w.step tools s).2.error = some e) : Idle tools w s
  | other {name path opening config w' f} (h : w.origin config opening = .ok (w', f))
      (he : Path.isEligible path f.options.resolveExtensions = false) :
      Idle tools w (.openFile name path opening config)

theorem configs_idle (h : Idle tools w s) : (w.step tools s).1.configs = w.configs := by
  have heffect := effect_step tools w s
  cases h with
  | operation hs =>
    generalize w.step tools s = result at heffect
    cases heffect with
    | refused | operation => rfl
    | _ => cases hs
  | rejected herror =>
    generalize w.step tools s = result at heffect herror
    cases heffect with
    | refused | operation => rfl
    | openFile h =>
      rw [openWith_eq] at herror
      cases herror
    | _ => cases herror
  | other ho he =>
    funext n
    rw [configs_step tools id, touch?, ho]
    simp [he]

/-- The last one wins, field by field: after any steps, each field of a configuration is what the
last touch says that says something of it, or what it was. Steps that are idle leave every
configuration as it is, and entries of unknown names do not matter. -/
theorem configs_latest (tools : Toolkit) (w : World) (n : Nat) (hn : n < w.configCount)
    (steps : List Step) :
    let touches := w.touches tools n steps
    (w.run tools steps).configs n =
        ⟨Touch.latest Touch.minify? touches (w.configs n).minify,
          Touch.latest Touch.relativePath? touches (w.configs n).relativePath,
          Touch.latest Touch.replacePaths? touches (w.configs n).replacePaths⟩ ∧
      (∀ v s, Idle tools v s → (v.step tools s).1.configs = v.configs) ∧
      w.run tools (steps.map Step.known) = w.run tools steps := by
  intro touches
  refine ⟨?_, fun v s => configs_idle, run_known tools w steps⟩
  rw [configs_run tools steps hn, Touch.foldl_apply]

/-- A plain yes switches minification off, a style sheet brings nothing, a wrong word is rejected,
and null takes the aliases away again. -/
theorem configs_latest_shared :
    let tools : Toolkit := ⟨fun _ source => .ok source, fun _ => none⟩
    let entry (name : String) (v : Value) : Value × Value := (.text name, v)
    let steps : List Step :=
      [.merge "shared" (.map [entry "minify" (.bool true), entry "unknown" (.bool true)]),
        .openFile "a" "a.twig" (.single (.map [entry "relativePath" (.bool true),
          entry "replacePaths" (.map [entry "src" (.text "@")])])) none,
        .openFile "b" "b.css" (.single (.map [entry "minify" (.map []),
          entry "relative_path" (.bool false)])) none,
        .merge "shared" (.map [entry "minify" (.text "perhaps"),
          entry "relativePath" (.bool false)]),
        .write "a" [0x61], .merge "shared" (.map [entry "replace_paths" .null]), .finish "a"]
    let final := (({} : World).run tools steps).configs 0
    0 < ({} : World).configCount ∧ final.minify.isNone ∧ final.relativePath = true ∧
      final.replacePaths = none := by
  intro tools entry steps final
  have hfinal := (configs_latest tools {} 0 (by decide) steps).1
  simp only [final, hfinal]
  decide +kernel

end World

end Stencil.Session
