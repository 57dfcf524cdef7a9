import Stencil.Proofs.Session.Scope
import Stencil.Proofs.Session.View

/-!
Files in flight. What is seen of a file are its own operations, as if nothing else were there; all
that reaches it from the rest of its session is the configuration at the end that compiles it. So
steps about anything else can be left out, and whatever else there is can be exchanged.
-/
namespace Stencil.Session

open Text Options FileTransform

namespace Step

def operationOn (name : String) (s : Step) : Option (Operation Bytes) :=
  s.operation?.bind fun (file, operation) => if file = name then some operation else none

/-- The step opens a file under a name. -/
def Opens (name : String) : Step → Prop
  | .openFile file .. => file = name
  | _ => False

theorem file_of_opens {s : Step} {name : String} (h : s.Opens name) : s.file? = some name := by
  cases s with
  | openFile => exact congrArg some h
  | _ => cases h

theorem operation_of_file {s : Step} {name : String} (h : s.file? = some name)
    (ho : ¬s.Opens name) : ∃ operation, s.operation? = some (name, operation) := by
  cases s with
  | newConfig | merge | reset | newFactory => cases h
  | openFile => exact absurd (Option.some.inj h) ho
  | write | finish | abort | iterate | stream =>
    cases h
    exact ⟨_, rfl⟩

theorem operationOn_eq {s : Step} {name : String} {operation : Operation Bytes}
    (h : s.operation? = some (name, operation)) : s.operationOn name = some operation := by
  simp [operationOn, h]

theorem operationOn_other {s : Step} {name : String} (h : s.file? ≠ some name) :
    s.operationOn name = none := by
  rw [operationOn]
  cases hs : s.operation? with
  | none => rfl
  | some performed =>
    rw [file?_of_operation? hs] at h
    exact if_neg fun heq => h (congrArg some heq)

end Step

namespace World

/-- The file of a name, if there is one, is under a configuration. -/
def Under (w : World) (name : String) (n : Nat) : Prop := ∀ f, w.files name = some f → f.config = n

/-- The step is about something else than a file and its configuration. It works on another file, or
on another configuration, or it is rejected. -/
structure Foreign (w : World) (name : String) (n : Nat) (s : Step) : Prop where
  names : ¬s.Names
  file : s.file? ≠ some name
  touch : w.touch? n s = none

/-- Some of the steps, of which only foreign ones were left out. Whenever the name is given to a
file, that file is under the configuration. -/
inductive Without (tools : Toolkit) (name : String) (n : Nat) :
    World → List Step → List Step → Prop
  | nil {w} : Without tools name n w [] []
  | keep {w s rest kept} (h : s.Opens name → (w.step tools s).1.Under name n)
      (hrest : Without tools name n (w.step tools s).1 rest kept) :
      Without tools name n w (s :: rest) (s :: kept)
  | drop {w s rest kept} (h : w.Foreign name n s)
      (hrest : Without tools name n (w.step tools s).1 rest kept) :
      Without tools name n w (s :: rest) kept

variable {tools : Toolkit} {w v : World} {s : Step} {name : String} {n : Nat}

/-- What is seen of a file in a step. -/
def view (tools : Toolkit) (w : World) (name : String) (s : Step) : View :=
  (w.step tools s).2.view (((w.step tools s).1.files name).map (·.transform))

/-- What is seen of a file in the steps that open it or work on it. -/
def views (tools : Toolkit) (w : World) (name : String) (steps : List Step) : List View :=
  (w.trace tools steps).filterMap fun (w, s) =>
    if s.file? = some name then some (w.view tools name s) else none

/-- The operations on a file, each with what a configuration holds at its moment. -/
def moments (tools : Toolkit) (w : World) (name : String) (n : Nat) (steps : List Step) :
    List (Operation Bytes × BuildConfig) :=
  (w.trace tools steps).filterMap fun (w, s) =>
    (s.operationOn name).map fun operation => (operation, w.configs n)

theorem views_own (h : s.file? = some name) (rest : List Step) :
    w.views tools name (s :: rest) =
      w.view tools name s :: (w.step tools s).1.views tools name rest := by
  simp [views, trace, h]

theorem views_other (h : s.file? ≠ some name) (rest : List Step) :
    w.views tools name (s :: rest) = (w.step tools s).1.views tools name rest := by
  simp [views, trace, h]

theorem moments_own {operation : Operation Bytes} (h : s.operation? = some (name, operation))
    (rest : List Step) :
    w.moments tools name n (s :: rest) =
      (operation, w.configs n) :: (w.step tools s).1.moments tools name n rest := by
  simp [moments, trace, Step.operationOn_eq h]

theorem moments_other (h : s.file? ≠ some name) (rest : List Step) :
    w.moments tools name n (s :: rest) = (w.step tools s).1.moments tools name n rest := by
  simp [moments, trace, Step.operationOn_other h]

theorem view_operation {operation : Operation Bytes} {file : OpenFile}
    (h : s.operation? = some (name, operation)) (hf : w.files name = some file) :
    w.view tools name s = (w.performed tools file operation).view := by
  rw [view, step_operation h hf]
  simp [afterRun, Ran.view]

theorem files_operation (tools : Toolkit) {operation : Operation Bytes} {file : OpenFile}
    (h : s.operation? = some (name, operation)) (hf : w.files name = some file) :
    (w.step tools s).1.files name =
      some { file with transform := (w.performed tools file operation).transform } := by
  rw [step_operation h hf]
  exact update_same ..

/-- A file is seen as if its operations were all there is. -/
theorem views_alone (tools : Toolkit) {file : OpenFile} (hf : w.files name = some file)
    {steps : List Step} (hsteps : ∀ s ∈ steps, ¬s.Opens name) {reported : List Switch}
    {alone : List (Operation Bytes × BuildConfig)}
    (h : SameAtEnds (Compiler.template tools) file.transform reported
      (w.moments tools name file.config steps) alone) :
    w.views tools name steps =
      (answers (Compiler.template tools) file.transform reported alone).map Ran.view := by
  induction steps generalizing w file reported alone with
  | nil =>
    cases h
    rfl
  | cons s rest ih =>
    obtain ⟨hs, hrest⟩ := List.forall_mem_cons.mp hsteps
    by_cases hown : s.file? = some name
    · obtain ⟨operation, hoperation⟩ := Step.operation_of_file hown hs
      rw [moments_own hoperation] at h
      cases h with
      | cons hconfig hnext =>
        rename_i config' rest'
        have hview := perform_view tools file.transform (w.compilers file.compiler) reported
          (w.configs file.config) config' operation hconfig
        have htransform := Ran.transform_of_view hview
        have hafter := ih (files_operation tools hoperation hf) hrest (htransform ▸ hnext)
        rw [views_own hown, view_operation hoperation hf, hafter, answers, List.map_cons,
          ← htransform]
        exact List.cons_eq_cons.mpr ⟨hview, rfl⟩
    · rw [views_other hown]
      rw [moments_other hown] at h
      exact ih ((files_step tools hown).trans hf) hrest h

theorem scope_foreign (tools : Toolkit) (h : w.Foreign name n s) :
    (w.step tools s).1.scope name n = w.scope name n := by
  rw [scope_step tools h.names, h.touch, fileOf, files_step tools h.file]
  rfl

theorem view_refused (h : w.scope name n = v.scope name n) {e : StepError}
    (hw : w.attempt tools s = .error e) (hv : v.attempt tools s = .error e) :
    w.view tools name s = v.view tools name s ∧
      (w.step tools s).1.fileOf name = (v.step tools s).1.fileOf name := by
  have hfile := file_scope h
  have htransform : (w.files name).map (·.transform) = (v.files name).map (·.transform) := by
    simpa [Function.comp_def, fileOf, OpenFile.binding] using congrArg (Option.map Prod.fst) hfile
  rw [view, view, step_refused hw, step_refused hv, htransform]
  exact ⟨rfl, hfile⟩

/-- In worlds of one scope, the same is seen of the file when an operation is performed on it. -/
theorem view_operation_scope (tools : Toolkit) (h : w.scope name n = v.scope name n)
    (hw : w.Under name n) {operation : Operation Bytes}
    (hs : s.operation? = some (name, operation)) :
    w.view tools name s = v.view tools name s ∧
      (w.step tools s).1.fileOf name = (v.step tools s).1.fileOf name := by
  have hfile := file_scope h
  rw [fileOf, fileOf] at hfile
  cases hf : w.files name with
  | none =>
    rw [hf] at hfile
    have hg : v.files name = none := Option.map_eq_none_iff.mp hfile.symm
    exact view_refused h (attempt_unknown hs hf) (attempt_unknown hs hg)
  | some f =>
    rw [hf] at hfile
    obtain ⟨g, hg, hfg⟩ := Option.map_eq_some_iff.mp hfile.symm
    obtain ⟨htransform, hnumber⟩ := Prod.mk.inj hfg
    have hconfigs : w.configs f.config = v.configs g.config := by
      rw [hnumber, hw f hf]
      exact config_scope h
    have hview : (w.performed tools f operation).view = (v.performed tools g operation).view := by
      rw [performed, performed, htransform]
      exact perform_view tools f.transform _ _ _ _ operation fun _ _ => hconfigs
    rw [view_operation hs hf, view_operation hs hg, fileOf, files_operation tools hs hf, fileOf,
      files_operation tools hs hg]
    refine ⟨hview, ?_⟩
    simp only [Option.map_some, OpenFile.binding, Ran.transform_of_view hview, hnumber]

/-- In worlds of one scope, the same is seen of the file when it is opened under the
configuration. -/
theorem view_open_scope (tools : Toolkit) (h : w.scope name n = v.scope name n)
    {path : String} {opening : Opening} {config : Option String}
    (hnext : (w.step tools (.openFile name path opening config)).1.Under name n) :
    w.view tools name (.openFile name path opening config) =
        v.view tools name (.openFile name path opening config) ∧
      (w.step tools (.openFile name path opening config)).1.fileOf name =
        (v.step tools (.openFile name path opening config)).1.fileOf name := by
  rcases outcomes_eq (origin_scope h config opening) with
    ⟨e, hw, hv⟩ | ⟨⟨w', f⟩, ⟨v', g⟩, hw, hv, heq⟩
  · refine view_refused (e := e) h ?_ ?_
    · rw [attempt, hw]
      rfl
    · rw [attempt, hv]
      rfl
  · have hoptions : f.options = g.options := congrArg Prod.fst heq
    have hnumber : f.config = g.config := congrArg Prod.snd heq
    have hw' : w'.configs = w.configs := by rcases origin_ok hw with rfl | rfl <;> rfl
    have hv' : v'.configs = v.configs := by rcases origin_ok hv with rfl | rfl <;> rfl
    rw [view, view, step_openFile hw, step_openFile hv, openWith_eq, openWith_eq]
    rw [step_openFile hw, openWith_eq] at hnext
    have hn : f.config = n := hnext _ (update_same ..)
    have hconfigs : w'.configs g.config = v'.configs g.config := by
      rw [hw', hv', ← hnumber, hn]
      exact config_scope h
    simp only [fileOf, update_same, Option.map_some, OpenFile.binding, hoptions, hnumber, hconfigs,
      and_self]

theorem view_scope (tools : Toolkit) (h : w.scope name n = v.scope name n)
    (hw : w.Under name n) (hnext : (w.step tools s).1.Under name n) (hs : s.file? = some name) :
    w.view tools name s = v.view tools name s ∧
      (w.step tools s).1.fileOf name = (v.step tools s).1.fileOf name := by
  by_cases ho : s.Opens name
  · cases s with
    | openFile file path opening config =>
      cases ho
      exact view_open_scope tools h hnext
    | _ => cases ho
  · obtain ⟨operation, hoperation⟩ := Step.operation_of_file hs ho
    exact view_operation_scope tools h hw hoperation

/-- Worlds of one scope are still of one scope after any step under which the file stays. -/
theorem scope_next (tools : Toolkit) (h : w.scope name n = v.scope name n)
    (hw : w.Under name n) (hnext : (w.step tools s).1.Under name n) :
    (w.step tools s).1.scope name n = (v.step tools s).1.scope name n := by
  by_cases hs : s.Names
  · exact scope_names tools h hs
  have hfile : (w.step tools s).1.fileOf name = (v.step tools s).1.fileOf name := by
    by_cases hown : s.file? = some name
    · exact (view_scope tools h hw hnext hown).2
    · rw [fileOf, files_step tools hown, fileOf, files_step tools hown]
      exact file_scope h
  rw [scope_step tools hs, scope_step tools hs, hfile, touch?_scope h, config_scope h, h]

theorem under_step (tools : Toolkit) (hw : w.Under name n) (ho : ¬s.Opens name) :
    (w.step tools s).1.Under name n := by
  intro f hf
  by_cases hs : s.file? = some name
  · obtain ⟨operation, hoperation⟩ := Step.operation_of_file hs ho
    cases hbefore : w.files name with
    | none =>
      rw [step_refused (attempt_unknown hoperation hbefore)] at hf
      exact hw f hf
    | some before =>
      rw [files_operation tools hoperation hbefore] at hf
      cases hf
      exact hw before hbefore
  · rw [files_step tools hs] at hf
    exact hw f hf

/-- Steps about anything else can be left out, and anything else can be exchanged. -/
theorem views_without {steps kept : List Step} (h : Without tools name n w steps kept)
    (hw : w.Under name n) (hv : w.scope name n = v.scope name n) :
    v.views tools name kept = w.views tools name steps := by
  -- both worlds stay of one scope; a step that is left out does not change the scope of the first
  induction h generalizing v with
  | nil => rfl
  | keep hopens hrest ih =>
    rename_i w s rest kept
    have hnext : (w.step tools s).1.Under name n := by
      by_cases ho : s.Opens name
      · exact hopens ho
      · exact under_step tools hw ho
    have hrest := ih hnext (scope_next tools hv hw hnext)
    by_cases hs : s.file? = some name
    · rw [views_own hs, views_own hs, hrest, (view_scope tools hv hw hnext hs).1]
    · rw [views_other hs, views_other hs, hrest]
  | drop hforeign hrest ih =>
    have hopens (ho : Step.Opens name _) := hforeign.file (Step.file_of_opens ho)
    rw [views_other hforeign.file]
    exact ih (under_step tools hw hopens) ((scope_foreign tools hforeign).trans hv)

/-- Files in flight are isolated. After a file is opened, what is seen of its operations is what
they lead to alone, if its configuration is then the same at each end that compiles. And the same is
seen of a file if steps about anything else are left out and everything outside of its scope is
exchanged. -/
theorem isolated (tools : Toolkit) (w : World) (name : String) :
    (∀ (path : String) (opening : Opening) (config : Option String) (w' : World) (f : Factory)
        (steps : List Step) (initial : BuildConfig) (reported : List Switch)
        (alone : List (Operation Bytes × BuildConfig)),
      w.origin config opening = .ok (w', f) → (∀ s ∈ steps, ¬s.Opens name) →
      let file := (opened path f.options initial).1
      let started := (w.step tools (.openFile name path opening config)).1
      SameAtEnds (Compiler.template tools) file reported
        (started.moments tools name f.config steps) alone →
      started.views tools name steps =
        (answers (Compiler.template tools) file reported alone).map Ran.view) ∧
    (∀ (n : Nat) (steps kept : List Step) (v : World),
      Without tools name n w steps kept → w.Under name n → w.scope name n = v.scope name n →
      v.views tools name kept = w.views tools name steps) := by
  refine ⟨?_, fun n steps kept v h hw hv => views_without h hw hv⟩
  intro path opening config w' f steps initial reported alone horigin hsteps file started h
  have hfile : started.files name = some ⟨file, f.config, f.compiler⟩ := by
    simp only [started, step_openFile horigin, openWith_eq, update_same, file]
    rw [opened_file path f.options initial]
  clear_value file started
  exact views_alone tools hfile hsteps h

/-- Two templates in flight, the other one under a configuration of its own. The options that come
before the end switch minification off for the file. -/
theorem isolated_two :
    let tools : Toolkit := ⟨fun _ source => .ok (' ' :: source), fun _ => none⟩
    let off : Value := .map [(.text "minify", .bool false)]
    let w : World := (({} : World).step tools (.newConfig "other" [])).1
    let started := (w.step tools (.openFile "a" "a.twig" (.direct none) none)).1
    let steps : List Step :=
      [.openFile "b" "b.twig" (.single off) (some "other"), .write "a" [0x61], .finish "b",
        .merge "shared" off, .finish "a"]
    let kept : List Step := [.write "a" [0x61], .merge "shared" off, .finish "a"]
    let alone : List (Operation Bytes × BuildConfig) :=
      [(.write [0x61], {}), (.finish, (started.run tools (steps.take 4)).configs 0)]
    let file := (opened "a.twig" {} {}).1
    let text := "\nmodule.exports = Twig.twig(\x7b id: \"a.twig\", data:[\x7b\"type\":\"raw\"," ++
      "\"value\":\"a\"\x7d], precompiled: true, allowInlineIncludes: true \x7d);"
    Without tools "a" 0 started steps kept ∧ started.Under "a" 0 ∧
      started.views tools "a" steps =
        (answers (Compiler.template tools) file [] alone).map Ran.view ∧
      started.views tools "a" kept = started.views tools "a" steps ∧
      (started.views tools "a" steps).map (·.emitted) = [[], [encodeUtf8 text.toList]] := by
  intro tools off w started steps kept alone file text
  have horigin : w.origin none (.direct none) = .ok (w.addCompiler, ⟨{}, 0, 0⟩) := rfl
  have hunder : started.Under "a" 0 := by
    intro f hf
    simp only [started, step_openFile horigin, openWith_eq, update_same] at hf
    cases hf
    rfl
  have hopened : started.Foreign "a" 0 (.openFile "b" "b.twig" (.single off) (some "other")) :=
    ⟨id, by decide, Option.isNone_iff_eq_none.mp (by decide +kernel)⟩
  have hwithout : Without tools "a" 0 started steps kept :=
    .drop hopened (.keep False.elim (.drop ⟨id, by decide, rfl⟩
      (.keep False.elim (.keep False.elim .nil))))
  have halone : SameAtEnds (Compiler.template tools) file []
      (started.moments tools "a" 0 steps) alone := by
    rw [moments_other (by decide), moments_own rfl, moments_other (by decide),
      moments_other (by decide), moments_own rfl]
    exact .cons (fun _ he => he.elim) (.cons (fun _ _ => rfl) .nil)
  have hviews := (isolated tools w "a").1 "a.twig" (.direct none) none _ _ steps {} [] alone
    horigin (by simp [steps, Step.Opens]) halone
  have hkept := (isolated tools started "a").2 0 steps kept started hwithout hunder rfl
  exact ⟨hwithout, hunder, hviews, hkept, by decide +kernel⟩

end World

end Stencil.Session
