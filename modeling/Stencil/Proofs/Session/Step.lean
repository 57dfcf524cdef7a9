import Stencil.Proofs.Result
import Stencil.Session

/-!
What a step of a session can do. It is refused, and then nothing happens; or it works on what its
names stand for: on one configuration, one factory, or one file with the compiler of that file.
-/
namespace Stencil.Session

open Text Options

namespace Step

/-- The operation that a step performs, with the name of its file. -/
def operation? : Step → Option (String × Operation Bytes)
  | .write file chunk => some (file, .write chunk)
  | .finish file => some (file, .finish)
  | .abort file => some (file, .abort)
  | .iterate file chunks => some (file, .iterate chunks)
  | .stream file data chunkSize => some (file, .stream .inMemory chunkSize data)
  | _ => none

def file? : Step → Option String
  | .openFile name .. => some name
  | s => s.operation?.map Prod.fst

/-- The step gives a name to a new configuration or a new factory. -/
def Names : Step → Prop
  | .newConfig .. | .newFactory .. => True
  | _ => False

theorem file?_of_operation? {s : Step} {name : String} {operation : Operation Bytes}
    (h : s.operation? = some (name, operation)) : s.file? = some name := by
  cases s with
  | newConfig | merge | reset | newFactory | openFile => cases h
  | _ => simp [file?, h]

end Step

namespace World

variable {tools : Toolkit} {w w' : World} {s : Step} {f : Factory}

theorem bound_ok {options : Value} {config : Option String} :
    w.bound options config = .ok (w', f) ↔
      ∃ n o, w.findConfig config = .ok n ∧ readOptions options = .ok o ∧ w' = w.addCompiler ∧
        f = ⟨o, n, w.compilerCount⟩ := by
  rw [bound]
  constructor
  · intro h
    obtain ⟨n, hn, h⟩ := bind_ok.mp h
    obtain ⟨o, ho, h⟩ := bind_ok.mp h
    cases h
    exact ⟨n, o, hn, ho, rfl, rfl⟩
  · rintro ⟨n, o, hn, ho, rfl, rfl⟩
    rw [hn, ho]
    rfl

/-- Finding a factory makes a compiler at most. -/
theorem origin_ok {config : Option String} {opening : Opening}
    (h : w.origin config opening = .ok (w', f)) : w' = w ∨ w' = w.addCompiler := by
  cases opening with
  | factory name =>
    rw [origin] at h
    cases hf : w.factories name with
    | none => simp [hf] at h
    | some found => simp_all
  | single options =>
    obtain ⟨-, -, -, -, hw, -⟩ := bound_ok.mp h
    exact .inr hw
  | direct options =>
    obtain ⟨-, -, -, -, hw, -⟩ := bound_ok.mp h
    exact .inr hw

theorem openWith_eq (w : World) (name path : String) (f : Factory) :
    w.openWith name path f =
      let made := FileTransform.opened path f.options (w.configs f.config)
      ({ w.setConfig f.config made.2.1 with
          files := update w.files name (some ⟨made.1, f.config, f.compiler⟩) },
        { records := made.2.2 }) := by
  rw [openWith]

theorem attempt_operation {name : String} {operation : Operation Bytes}
    (h : s.operation? = some (name, operation)) :
    w.attempt tools s = w.operate tools name operation := by
  cases s with
  | newConfig | merge | reset | newFactory | openFile => cases h
  | _ =>
    cases h
    rfl

theorem attempt_unknown {name : String} {operation : Operation Bytes}
    (h : s.operation? = some (name, operation)) (hf : w.files name = none) :
    w.attempt tools s = .error (.unknown name) := by
  rw [attempt_operation h, operate, hf]

theorem step_refused {e : StepError} (h : w.attempt tools s = .error e) :
    w.step tools s = (w, { error := some e }) := by
  rw [step, h]

theorem step_operation {name : String} {operation : Operation Bytes} {file : OpenFile}
    (h : s.operation? = some (name, operation)) (hf : w.files name = some file) :
    w.step tools s =
      (w.afterRun name file (w.performed tools file operation),
        runAnswer (w.performed tools file operation)) := by
  rw [step, attempt_operation h, operate, hf]

theorem step_openFile {name path : String} {opening : Opening} {config : Option String}
    (h : w.origin config opening = .ok (w', f)) :
    w.step tools (.openFile name path opening config) = w'.openWith name path f := by
  rw [step, attempt, h]
  rfl

inductive Effect (tools : Toolkit) (w : World) : Step → World × Answer → Prop
  | refused {s e} (h : w.attempt tools s = .error e) : Effect tools w s (w, { error := some e })
  | newConfig {name entries c} (h : BuildConfig.read entries = .ok c) :
      Effect tools w (.newConfig name entries) (w.addConfig name c, {})
  | merge {config options n o} (hn : w.findConfig (some config) = .ok n)
      (ho : readOptions options = .ok o) :
      Effect tools w (.merge config options)
        (w.setConfig n ((w.configs n).merge o),
          { records := [((w.configs n).merge o).mergedRecord] })
  | reset {config n} (hn : w.findConfig config = .ok n) :
      Effect tools w (.reset config) (w.setConfig n {}, {})
  | newFactory {name options config w' f} (h : w.bound options config = .ok (w', f)) :
      Effect tools w (.newFactory name options config)
        ({ w' with factories := update w'.factories name (some f) }, {})
  | openFile {name path opening config w' f} (h : w.origin config opening = .ok (w', f)) :
      Effect tools w (.openFile name path opening config) (w'.openWith name path f)
  | operation {s name operation file} (hs : s.operation? = some (name, operation))
      (hf : w.files name = some file) :
      Effect tools w s
        (w.afterRun name file (w.performed tools file operation),
          runAnswer (w.performed tools file operation))

theorem effect_attempt {result : World × Answer} (h : w.attempt tools s = .ok result) :
    Effect tools w s result := by
  cases hs : s.operation? with
  | some performed =>
    obtain ⟨name, operation⟩ := performed
    rw [attempt_operation hs, operate] at h
    cases hf : w.files name with
    | none => simp [hf] at h
    | some file =>
      rw [hf] at h
      cases h
      exact .operation hs hf
  | none =>
    cases s with
    | newConfig name entries =>
      obtain ⟨c, hc, h⟩ := bind_ok.mp h
      cases h
      exact .newConfig (mapError_ok.mp hc)
    | merge config options =>
      obtain ⟨n, hn, h⟩ := bind_ok.mp h
      obtain ⟨o, ho, h⟩ := bind_ok.mp h
      cases h
      exact .merge hn ho
    | reset config =>
      obtain ⟨n, hn, h⟩ := bind_ok.mp h
      cases h
      exact .reset hn
    | newFactory name options config =>
      obtain ⟨made, hb, h⟩ := bind_ok.mp h
      cases h
      exact .newFactory hb
    | openFile name path opening config =>
      obtain ⟨found, ho, h⟩ := bind_ok.mp h
      cases h
      exact .openFile ho
    | _ => cases hs

theorem effect_step (tools : Toolkit) (w : World) (s : Step) :
    Effect tools w s (w.step tools s) := by
  rw [step]
  cases h : w.attempt tools s with
  | error e => exact .refused h
  | ok result => exact effect_attempt h

/-- A step leaves every file alone but the one that it opens or works on. -/
theorem files_step {name : String} (tools : Toolkit) (h : s.file? ≠ some name) :
    (w.step tools s).1.files name = w.files name := by
  have heffect := effect_step tools w s
  generalize w.step tools s = result at heffect
  cases heffect with
  | refused | newConfig | merge | reset => rfl
  | newFactory hb =>
    obtain ⟨-, -, -, -, rfl, -⟩ := bound_ok.mp hb
    rfl
  | openFile ho =>
    rw [openWith_eq]
    have hother : name ≠ _ := fun heq => h (congrArg some heq.symm)
    rcases origin_ok ho with rfl | rfl <;> exact update_other _ _ hother
  | operation hs hf =>
    rw [Step.file?_of_operation? hs] at h
    exact update_other _ _ fun heq => h (congrArg some heq.symm)

/-- The names of configurations and factories stand for what they stood for, unless the step gives
such a name. -/
theorem names_step (tools : Toolkit) (h : ¬s.Names) :
    (w.step tools s).1.configCount = w.configCount ∧
      (w.step tools s).1.configNames = w.configNames ∧
      (w.step tools s).1.factories = w.factories := by
  have heffect := effect_step tools w s
  generalize w.step tools s = result at heffect
  cases heffect with
  | refused | merge | reset | operation => exact ⟨rfl, rfl, rfl⟩
  | newConfig | newFactory => exact absurd trivial h
  | openFile ho =>
    rw [openWith_eq]
    rcases origin_ok ho with rfl | rfl <;> exact ⟨rfl, rfl, rfl⟩

/-- The steps of a session, each with the world that it is taken in. -/
def trace (tools : Toolkit) (w : World) : List Step → List (World × Step)
  | [] => []
  | s :: rest => (w, s) :: trace tools (w.step tools s).1 rest

def run (tools : Toolkit) (w : World) : List Step → World
  | [] => w
  | s :: rest => run tools (w.step tools s).1 rest

end World

end Stencil.Session
