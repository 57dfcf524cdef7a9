import Stencil.Proofs.Session.Configuration

/-!
The scope of a file: the part of a session that it has to do with. In worlds of one scope, a step
resolves its names alike and does the same to the scope; compilers, other files and other
configurations make no difference.
-/
namespace Stencil.Session

open Text Options

def Factory.binding (f : Factory) : TransformOptions × Nat := (f.options, f.config)

def OpenFile.binding (f : OpenFile) : FileTransform × Nat := (f.transform, f.config)

/-- What a file has to do with: what the names of configurations and factories stand for, one
configuration, and itself. Compilers, other files and other configurations are no part of it. -/
@[ext]
structure Scope where
  configCount : Nat
  configNames : String → Option Nat
  factories : String → Option (TransformOptions × Nat)
  config : BuildConfig
  file : Option (FileTransform × Nat)

namespace World

def fileOf (w : World) (name : String) : Option (FileTransform × Nat) :=
  (w.files name).map OpenFile.binding

/-- The scope of a file under a configuration. -/
def scope (name : String) (n : Nat) (w : World) : Scope :=
  ⟨w.configCount, w.configNames, fun factory => (w.factories factory).map Factory.binding,
    w.configs n, w.fileOf name⟩

variable {tools : Toolkit} {w v : World} {s : Step} {name : String} {n : Nat}

/-- Two outcomes that are the same but for what is not looked at are both failures, or neither. -/
theorem outcomes_eq {x y : Except ε α} {look : α → β} (h : x.map look = y.map look) :
    (∃ e, x = .error e ∧ y = .error e) ∨ ∃ a b, x = .ok a ∧ y = .ok b ∧ look a = look b := by
  cases x <;> cases y <;> simp_all [Except.map]

theorem findConfig_scope (h : w.scope name n = v.scope name n) (config : Option String) :
    w.findConfig config = v.findConfig config := by
  have hnames : w.configNames = v.configNames := congrArg Scope.configNames h
  simp only [findConfig, configNumber, hnames]

theorem bound_scope (h : w.scope name n = v.scope name n) (options : Value)
    (config : Option String) :
    (w.bound options config).map (·.2.binding) = (v.bound options config).map (·.2.binding) := by
  rw [bound, bound, findConfig_scope h]
  cases v.findConfig config with
  | error e => rfl
  | ok m => cases readOptions options <;> rfl

theorem origin_scope (h : w.scope name n = v.scope name n) (config : Option String)
    (opening : Opening) :
    (w.origin config opening).map (·.2.binding) = (v.origin config opening).map (·.2.binding) := by
  cases opening with
  | factory factory =>
    have hfactory : (w.factories factory).map Factory.binding =
        (v.factories factory).map Factory.binding := congrFun (congrArg Scope.factories h) factory
    rw [origin, origin]
    cases hw : w.factories factory <;> cases hv : v.factories factory <;>
      simp_all [Except.map]
  | single options => exact bound_scope h options config
  | direct options => exact bound_scope h (options.getD .null) config

theorem touch?_scope (h : w.scope name n = v.scope name n) (m : Nat) (s : Step) :
    w.touch? m s = v.touch? m s := by
  cases s with
  | merge config options => simp only [touch?, findConfig_scope h]
  | reset config => simp only [touch?, findConfig_scope h]
  | openFile file path opening config =>
    have horigin := origin_scope h config opening
    simp only [touch?]
    cases hw : w.origin config opening <;> cases hv : v.origin config opening <;>
      simp_all [Except.map, Factory.binding]
  | _ => rfl

/-- After a step that gives no name, a scope is the same but for what was done to the configuration
and to the file. -/
theorem scope_step (tools : Toolkit) (hs : ¬s.Names) :
    (w.step tools s).1.scope name n =
      { w.scope name n with
        config := (w.touch? n s).toList.foldl Touch.apply (w.configs n)
        file := (w.step tools s).1.fileOf name } := by
  obtain ⟨hcount, hnames, hfactories⟩ := names_step (w := w) tools hs
  rw [scope, hcount, hnames, hfactories, configs_step tools hs]
  rfl

theorem file_scope (h : w.scope name n = v.scope name n) :
    w.fileOf name = v.fileOf name := congrArg Scope.file h

theorem config_scope (h : w.scope name n = v.scope name n) : w.configs n = v.configs n :=
  congrArg Scope.config h

theorem scope_addConfig (w : World) (label : String) (c : BuildConfig) :
    (w.addConfig label c).scope name n =
      let before := w.scope name n
      { before with
        configCount := before.configCount + 1
        configNames := update before.configNames label (some before.configCount)
        config := if n = before.configCount then c else before.config } := rfl

theorem scope_addFactory (w : World) (label : String) (f : Factory) :
    ({ w with factories := update w.factories label (some f) } : World).scope name n =
      let before := w.scope name n
      { before with factories := update before.factories label (some f.binding) } := by
  refine Scope.ext rfl rfl (funext fun factory => ?_) rfl rfl
  simp only [scope, update]
  split <;> rfl

/-- Worlds of one scope are still of one scope after a step that gives a name. -/
theorem scope_names (tools : Toolkit) (h : w.scope name n = v.scope name n) (hs : s.Names) :
    (w.step tools s).1.scope name n = (v.step tools s).1.scope name n := by
  cases s with
  | newConfig label entries =>
    rw [step, step, attempt, attempt]
    cases BuildConfig.read entries with
    | error issues => exact h
    | ok c =>
      change (w.addConfig label c).scope name n = (v.addConfig label c).scope name n
      rw [scope_addConfig, scope_addConfig, h]
  | newFactory label options config =>
    rw [step, step, attempt, attempt]
    rcases outcomes_eq (bound_scope h options config) with ⟨e, hw, hv⟩ | ⟨made, made', hw, hv, heq⟩
    · rw [hw, hv]
      exact h
    · obtain ⟨-, -, -, -, hmade, -⟩ := bound_ok.mp hw
      obtain ⟨-, -, -, -, hmade', -⟩ := bound_ok.mp hv
      have hscope : made.1.scope name n = made'.1.scope name n := by
        rw [hmade, hmade']
        exact h
      rw [hw, hv]
      refine (scope_addFactory made.1 label made.2).trans ?_
      rw [hscope, heq]
      exact (scope_addFactory made'.1 label made'.2).symm
  | _ => cases hs

end World

end Stencil.Session
