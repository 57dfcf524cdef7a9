import Stencil.Proofs.Session.Scope
import Stencil.Proofs.Session.View

/-!
The ways to open a file. Each of them stands for options and a configuration: a factory for those
that it was made with, the others for those that they name. Ways that stand for the same can be
exchanged anywhere in a session, and factories made or left out on the way; nothing else that is
seen of the session changes, but for the details that the minifier reports.
-/
namespace Stencil.Session

open Text Options FileTransform

/-- What a session shows besides its factories and compilers: what the names of configurations stand
for, all configurations, and all files, each with the number of its configuration. -/
@[ext]
structure Sight where
  configCount : Nat
  configNames : String → Option Nat
  configs : Nat → BuildConfig
  files : String → Option (FileTransform × Nat)

def Answer.shown (a : Answer) : Answer := { a with records := shownRecords a.records }

theorem Answer.shown_of_view {a a' : Answer} {file file' : Option FileTransform}
    (h : a.view file = a'.view file') : a.shown = a'.shown := by
  obtain ⟨hemitted, herror, hrecords, -⟩ := View.mk.inj h
  rw [shown, shown, hemitted, herror, hrecords]

namespace Step

def OpensBy (factory : String) : Step → Prop
  | .openFile _ _ (.factory name) _ => name = factory
  | _ => False

/-- The step makes a factory, if it can be taken. -/
def Makes (factory : String) : Step → Prop
  | .newFactory name .. => name = factory
  | _ => False

/-- The step gives a name to a new configuration, if it can be taken. -/
def Configures (label : String) : Step → Prop
  | .newConfig name _ => name = label
  | _ => False

end Step

namespace World

/-- What is seen of a world. -/
def sight (w : World) : Sight := ⟨w.configCount, w.configNames, w.configs, w.fileOf⟩

def look (result : World × Answer) : Sight × Answer := (result.1.sight, result.2.shown)

/-- What is seen of a step: the world after it, and its answer. -/
def shown (tools : Toolkit) (w : World) (s : Step) : Sight × Answer := look (w.step tools s)

/-- What a way to open a file stands for: options as they were supplied, and a configuration. -/
inductive Means (w : World) (options : Value) (n : Nat) : Opening → Option String → Prop
  | factory {name f config} (hf : w.factories name = some f)
      (ho : readOptions options = .ok f.options) (hn : f.config = n) :
      Means w options n (.factory name) config
  | single {config} (hn : w.findConfig config = .ok n) : Means w options n (.single options) config
  | direct {given config} (hg : given.getD .null = options) (hn : w.findConfig config = .ok n) :
      Means w options n (.direct given) config

inductive Replaces (w v : World) : Step → Step → Prop
  | same {s} (hs : ∀ factory, s.OpensBy factory →
      (w.factories factory).map Factory.binding = (v.factories factory).map Factory.binding) :
      Replaces w v s s
  | opening {name path options n opening config opening' config'}
      (h : w.Means options n opening config) (h' : v.Means options n opening' config') :
      Replaces w v (.openFile name path opening config) (.openFile name path opening' config')
  /-- Options that are rejected are rejected as soon as a factory is made of them. -/
  | earlier {name path options n opening config factory config' issues}
      (h : w.Means options n opening config) (hn : v.findConfig config' = .ok n)
      (hbad : readOptions options = .error (.badOptions issues)) :
      Replaces w v (.openFile name path opening config) (.newFactory factory options config')
  | later {name path options n opening config factory config' issues}
      (hn : w.findConfig config' = .ok n) (h : v.Means options n opening config)
      (hbad : readOptions options = .error (.badOptions issues)) :
      Replaces w v (.newFactory factory options config') (.openFile name path opening config)

/-- The step makes a factory and can be taken. -/
def Offers (tools : Toolkit) (w : World) (s : Step) : Prop :=
  (∃ factory, s.Makes factory) ∧ (w.step tools s).2.error = none

/-- Steps in place of others, one by one, where factories may be made or not. -/
inductive Exchanged (tools : Toolkit) : World → World → List Step → List Step → Prop
  | nil {w v} : Exchanged tools w v [] []
  | replace {w v s s' rest rest'} (h : w.Replaces v s s')
      (hrest : Exchanged tools (w.step tools s).1 (v.step tools s').1 rest rest') :
      Exchanged tools w v (s :: rest) (s' :: rest')
  | drop {w v s rest steps} (h : w.Offers tools s)
      (hrest : Exchanged tools (w.step tools s).1 v rest steps) :
      Exchanged tools w v (s :: rest) steps
  | add {w v s rest steps} (h : v.Offers tools s)
      (hrest : Exchanged tools w (v.step tools s).1 steps rest) :
      Exchanged tools w v steps (s :: rest)

/-- What is seen of steps, but for factories that are made. -/
def allShown (tools : Toolkit) (w : World) : List Step → List (Sight × Answer)
  | [] => []
  | s :: rest =>
    let others := allShown tools (w.step tools s).1 rest
    match s, (w.step tools s).2.error with
    | .newFactory .., none => others
    | _, _ => w.shown tools s :: others

variable {tools : Toolkit} {w w' v v' : World} {s s' : Step} {options : Value} {n : Nat}

/-! ### What the parts of a step do to what is seen -/

theorem findConfig_sight (h : w.sight = v.sight) (config : Option String) :
    w.findConfig config = v.findConfig config := by
  have hnames : w.configNames = v.configNames := congrArg Sight.configNames h
  simp only [findConfig, configNumber, hnames]

theorem configs_sight (h : w.sight = v.sight) : w.configs = v.configs := congrArg Sight.configs h

theorem fileOf_sight (h : w.sight = v.sight) (name : String) : w.fileOf name = v.fileOf name :=
  congrFun (congrArg Sight.files h) name

theorem sight_addConfig (w : World) (label : String) (c : BuildConfig) :
    (w.addConfig label c).sight =
      let before := w.sight
      { before with
        configCount := before.configCount + 1
        configNames := update before.configNames label (some before.configCount)
        configs := update before.configs before.configCount c } := rfl

theorem sight_setConfig (w : World) (m : Nat) (c : BuildConfig) :
    (w.setConfig m c).sight = { w.sight with configs := update w.sight.configs m c } := rfl

theorem sight_addFile (w : World) (name : String) (f : OpenFile) :
    ({ w with files := update w.files name (some f) } : World).sight =
      { w.sight with files := update w.sight.files name (some f.binding) } := by
  refine Sight.ext rfl rfl rfl (funext fun file => ?_)
  simp only [sight, fileOf, update]
  split <;> rfl

theorem sight_afterRun (w : World) (name : String) (f : OpenFile) (r : Ran (List Switch)) :
    (w.afterRun name f r).sight =
      { w.sight with files := update w.sight.files name (some (r.transform, f.config)) } :=
  sight_addFile w name { f with transform := r.transform }

theorem sight_of_origin {config : Option String} {opening : Opening} {f : Factory}
    (h : w.origin config opening = .ok (w', f)) : w'.sight = w.sight := by
  rcases origin_ok h with rfl | rfl <;> rfl

/-- Steps that look alike if they are taken, or are refused alike, are seen alike. -/
theorem shown_eq (h : w.sight = v.sight)
    (hs : (w.attempt tools s).map look = (v.attempt tools s').map look) :
    w.shown tools s = v.shown tools s' := by
  rw [shown, shown, step, step]
  rcases outcomes_eq hs with ⟨e, hw, hv⟩ | ⟨result, result', hw, hv, hlook⟩
  · rw [hw, hv]
    exact Prod.ext h rfl
  · rw [hw, hv]
    exact hlook

theorem look_openWith {name path : String} {config : Option String} {opening : Opening}
    {f : Factory} (h : w.origin config opening = .ok (w', f)) :
    look (w'.openWith name path f) =
      let made := opened path f.options (w.configs f.config)
      ({ w.sight with
          configs := update w.configs f.config made.2.1
          files := update w.fileOf name (some (made.1, f.config)) },
        { records := shownRecords made.2.2 }) := by
  have hsight := sight_of_origin h
  have hconfigs : w'.configs = w.configs := congrArg Sight.configs hsight
  rw [openWith_eq, hconfigs]
  generalize opened path f.options (w.configs f.config) = made
  refine Prod.ext ((sight_addFile (w'.setConfig _ _) name _).trans ?_) rfl
  rw [sight_setConfig, hsight]
  rfl

/-- Openings of the same options and the same configuration are seen alike. -/
theorem shown_openFile (tools : Toolkit) (h : w.sight = v.sight) {name path : String}
    {opening opening' : Opening} {config config' : Option String}
    (horigin : (w.origin config opening).map (·.2.binding) =
      (v.origin config' opening').map (·.2.binding)) :
    w.shown tools (.openFile name path opening config) =
      v.shown tools (.openFile name path opening' config') := by
  refine shown_eq h ?_
  rw [attempt, attempt]
  rcases outcomes_eq horigin with ⟨e, hw, hv⟩ | ⟨⟨w', f⟩, ⟨v', g⟩, hw, hv, heq⟩
  · rw [hw, hv]
  · obtain ⟨hoptions, hconfig⟩ : f.options = g.options ∧ f.config = g.config := Prod.mk.inj heq
    have hfiles : w.fileOf = v.fileOf := congrArg Sight.files h
    have hlook : look (w'.openWith name path f) = look (v'.openWith name path g) := by
      rw [look_openWith hw, look_openWith hv, hoptions, hconfig, configs_sight h, hfiles, h]
    rw [hw, hv]
    exact congrArg Except.ok hlook

theorem origin_means {opening : Opening} {config : Option String}
    (h : w.Means options n opening config) :
    (w.origin config opening).map (·.2.binding) = (readOptions options).map (·, n) := by
  cases h with
  | factory hf ho hn =>
    rw [origin, hf, ho, ← hn]
    rfl
  | single hn =>
    rw [origin, bound, hn]
    cases readOptions options <;> rfl
  | direct hg hn =>
    rw [origin, bound, hn, hg]
    cases readOptions options <;> rfl

/-- Operations are performed alike on a file, whatever its compiler has reported. -/
theorem shown_operation (tools : Toolkit) (h : w.sight = v.sight) {name : String}
    {operation : Operation Bytes} (hs : s.operation? = some (name, operation)) :
    w.shown tools s = v.shown tools s := by
  have hfile := fileOf_sight h name
  refine shown_eq h ?_
  rw [attempt_operation hs, attempt_operation hs, operate, operate]
  rw [fileOf, fileOf] at hfile
  cases hf : w.files name with
  | none =>
    have hg : v.files name = none := by simpa [hf] using hfile.symm
    rw [hg]
  | some f =>
    obtain ⟨g, hg, hfg⟩ := Option.map_eq_some_iff.mp (hf ▸ hfile).symm
    obtain ⟨htransform, hnumber⟩ := Prod.mk.inj hfg
    have hview : (w.performed tools f operation).view =
        (v.performed tools g operation).view := by
      rw [performed, performed, htransform, hnumber, configs_sight h]
      exact perform_view tools f.transform _ _ _ _ operation fun _ _ => rfl
    have hanswer : (runAnswer (w.performed tools f operation)).shown =
        (runAnswer (v.performed tools g operation)).shown := Answer.shown_of_view hview
    rw [hg]
    refine congrArg Except.ok (Prod.ext ?_ hanswer)
    change (w.afterRun ..).sight = (v.afterRun ..).sight
    rw [sight_afterRun, sight_afterRun, h, Ran.transform_of_view hview, hnumber]

/-- A step is seen alike in worlds that look alike. -/
theorem shown_same (tools : Toolkit) (h : w.sight = v.sight)
    (hs : ∀ factory, s.OpensBy factory →
      (w.factories factory).map Factory.binding = (v.factories factory).map Factory.binding) :
    w.shown tools s = v.shown tools s := by
  cases hoperation : s.operation? with
  | some performed => exact shown_operation tools h hoperation
  | none =>
    cases s with
    | newConfig label entries =>
      refine shown_eq h ?_
      rw [attempt, attempt]
      cases BuildConfig.read entries with
      | error issues => rfl
      | ok c =>
        have hsight : (w.addConfig label c).sight = (v.addConfig label c).sight := by
          rw [sight_addConfig, sight_addConfig, h]
        exact congrArg Except.ok (Prod.ext hsight rfl)
    | merge config options =>
      refine shown_eq h ?_
      rw [attempt, attempt, findConfig_sight h]
      cases v.findConfig (some config) with
      | error e => rfl
      | ok m =>
        cases readOptions options with
        | error e => rfl
        | ok o =>
          have hsight (c : BuildConfig) : (w.setConfig m c).sight = (v.setConfig m c).sight := by
            rw [sight_setConfig, sight_setConfig, h]
          rw [configs_sight h]
          exact congrArg Except.ok (Prod.ext (hsight _) rfl)
    | reset config =>
      refine shown_eq h ?_
      rw [attempt, attempt, findConfig_sight h]
      cases v.findConfig config with
      | error e => rfl
      | ok m =>
        have hsight : (w.setConfig m {}).sight = (v.setConfig m {}).sight := by
          rw [sight_setConfig, sight_setConfig, h]
        exact congrArg Except.ok (Prod.ext hsight rfl)
    | newFactory name options config =>
      refine shown_eq h ?_
      rw [attempt, attempt, bound, bound, findConfig_sight h]
      cases v.findConfig config with
      | error e => rfl
      | ok m =>
        cases readOptions options with
        | error e => rfl
        | ok o => exact congrArg Except.ok (Prod.ext h rfl)
    | openFile name path opening config =>
      refine shown_openFile tools h ?_
      cases opening with
      | factory factory =>
        rw [origin, origin]
        have hfactory := hs factory rfl
        cases hw : w.factories factory <;> cases hv : v.factories factory <;> simp_all [Except.map]
      | single options | direct options =>
        rw [origin, origin, bound, bound, findConfig_sight h]
        cases v.findConfig config with
        | error e => rfl
        | ok m => cases readOptions _ <;> rfl
    | write | finish | abort | iterate | stream => cases hoperation

theorem attempt_openFile_refused {opening : Opening} {config : Option String}
    (h : w.Means options n opening config) {issues : List Issue}
    (hbad : readOptions options = .error (.badOptions issues)) (name path : String) :
    w.attempt tools (.openFile name path opening config) = .error (.badOptions issues) := by
  have horigin := origin_means h
  rw [hbad] at horigin
  rw [attempt]
  cases ho : w.origin config opening with
  | error e =>
    rw [ho] at horigin
    cases horigin
    rfl
  | ok made =>
    rw [ho] at horigin
    cases horigin

theorem attempt_newFactory_refused {config : Option String} (hn : w.findConfig config = .ok n)
    {e : StepError} (hbad : readOptions options = .error e) (factory : String) :
    w.attempt tools (.newFactory factory options config) = .error e := by
  rw [attempt, bound, hn, hbad]
  rfl

theorem shown_replaces (tools : Toolkit) (h : w.sight = v.sight) (hs : w.Replaces v s s') :
    w.shown tools s = v.shown tools s' := by
  cases hs with
  | same hs => exact shown_same tools h hs
  | opening hw hv => exact shown_openFile tools h ((origin_means hw).trans (origin_means hv).symm)
  | earlier hw hn hbad =>
    refine shown_eq h ?_
    rw [attempt_openFile_refused hw hbad, attempt_newFactory_refused hn hbad]
  | later hn hv hbad =>
    refine shown_eq h ?_
    rw [attempt_openFile_refused hv hbad, attempt_newFactory_refused hn hbad]

theorem error_newFactory_eq_none_iff {factory : String} {config : Option String} :
    (w.step tools (.newFactory factory options config)).2.error = none ↔
      ∃ m o, w.findConfig config = .ok m ∧ readOptions options = .ok o := by
  rw [step, attempt, bound]
  cases w.findConfig config with
  | error e => simp [bind, Except.bind]
  | ok m => cases readOptions options <;> simp [bind, Except.bind, pure, Except.pure]

/-- A factory that is made is not seen. -/
theorem sight_offers (h : w.Offers tools s) : (w.step tools s).1.sight = w.sight := by
  obtain ⟨⟨factory, hfactory⟩, herror⟩ := h
  cases s with
  | newFactory name options config =>
    obtain ⟨m, o, hm, ho⟩ := error_newFactory_eq_none_iff.mp herror
    rw [step, attempt, bound, hm, ho]
    rfl
  | _ => cases hfactory

theorem allShown_offers (h : w.Offers tools s) (rest : List Step) :
    w.allShown tools (s :: rest) = (w.step tools s).1.allShown tools rest := by
  obtain ⟨⟨factory, hfactory⟩, herror⟩ := h
  cases s with
  | newFactory name options config => simp only [allShown, herror]
  | _ => cases hfactory

theorem allShown_other (h : ¬w.Offers tools s) (rest : List Step) :
    w.allShown tools (s :: rest) =
      w.shown tools s :: (w.step tools s).1.allShown tools rest := by
  cases s with
  | newFactory name options config =>
    have herror : (w.step tools (.newFactory name options config)).2.error ≠ none :=
      fun herror => h ⟨⟨name, rfl⟩, herror⟩
    simp only [allShown]
    split
    · exact absurd ‹_› herror
    · rfl
  | _ => rfl

theorem offers_replaces (h : w.shown tools s = v.shown tools s') (hs : w.Replaces v s s') :
    w.Offers tools s ↔ v.Offers tools s' := by
  have herror : (w.step tools s).2.error = (v.step tools s').2.error :=
    congrArg (·.2.error) h
  cases hs with
  | same => rw [Offers, Offers, herror]
  | opening => exact iff_of_false (fun h => h.1.elim fun _ => id) fun h => h.1.elim fun _ => id
  | earlier hw hn hbad =>
    refine iff_of_false (fun h => h.1.elim fun _ => id) fun h => ?_
    obtain ⟨m, o, -, ho⟩ := error_newFactory_eq_none_iff.mp h.2
    cases hbad.symm.trans ho
  | later hn hv hbad =>
    refine iff_of_false (fun h => ?_) fun h => h.1.elim fun _ => id
    obtain ⟨m, o, -, ho⟩ := error_newFactory_eq_none_iff.mp h.2
    cases hbad.symm.trans ho

/-- In worlds that look alike, exchanged steps are seen alike. -/
theorem allShown_exchanged {steps steps' : List Step} (hx : Exchanged tools w v steps steps')
    (h : w.sight = v.sight) : w.allShown tools steps = v.allShown tools steps' := by
  induction hx with
  | nil => rfl
  | @replace w v s s' rest rest' hs hrest ih =>
    have hshown := shown_replaces tools h hs
    have hnext := ih (congrArg Prod.fst hshown)
    by_cases ho : w.Offers tools s
    · rw [allShown_offers ho, allShown_offers ((offers_replaces hshown hs).mp ho), hnext]
    · rw [allShown_other ho, allShown_other (mt (offers_replaces hshown hs).mpr ho), hshown, hnext]
  | drop ho hrest ih => rw [allShown_offers ho, ih ((sight_offers ho).trans h)]
  | add ho hrest ih => rw [allShown_offers ho, ih (h.trans (sight_offers ho).symm)]

/-! ### What factories stand for -/

/-- A factory stays until another one is made under its name. -/
theorem factories_step (tools : Toolkit) {factory : String} (h : ¬s.Makes factory) :
    (w.step tools s).1.factories factory = w.factories factory := by
  by_cases hs : s.Names
  · have heffect := effect_step tools w s
    generalize w.step tools s = result at heffect
    cases heffect with
    | refused | newConfig => rfl
    | newFactory hb =>
      obtain ⟨-, -, -, -, rfl, -⟩ := bound_ok.mp hb
      exact update_other _ _ fun heq => h heq.symm
    | merge | reset | openFile => cases hs
    | operation => rfl
  · rw [(names_step tools hs).2.2]

theorem factories_run (tools : Toolkit) {factory : String} (steps : List Step)
    (h : ∀ s ∈ steps, ¬s.Makes factory) :
    (w.run tools steps).factories factory = w.factories factory := by
  induction steps generalizing w with
  | nil => rfl
  | cons s rest ih =>
    obtain ⟨hs, hrest⟩ := List.forall_mem_cons.mp h
    rw [run, ih hrest, factories_step tools hs]

theorem findConfig_congr {config : Option String}
    (h : ∀ label, config = some label → w.configNames label = v.configNames label) :
    w.findConfig config = v.findConfig config := by
  have hnumber : w.configNumber config = v.configNumber config := by
    rw [configNumber.eq_def, configNumber.eq_def]
    split
    · rfl
    · rfl
    · exact h _ rfl
  rw [findConfig, findConfig, hnumber]

/-- The name of a configuration stands for it until another one is made under that name. -/
theorem findConfig_step (tools : Toolkit) {config : Option String}
    (h : ∀ label, config = some label → ¬s.Configures label) :
    (w.step tools s).1.findConfig config = w.findConfig config := by
  refine findConfig_congr fun label hlabel => ?_
  have hs := h label hlabel
  have heffect := effect_step tools w s
  generalize w.step tools s = result at heffect
  cases heffect with
  | refused | merge | reset | operation => rfl
  | newConfig => exact update_other _ _ fun heq => hs heq.symm
  | newFactory hb =>
    obtain ⟨-, -, -, -, rfl, -⟩ := bound_ok.mp hb
    rfl
  | openFile ho =>
    rw [openWith_eq]
    rcases origin_ok ho with rfl | rfl <;> rfl

theorem findConfig_run (tools : Toolkit) {config : Option String} (steps : List Step)
    (h : ∀ s ∈ steps, ∀ label, config = some label → ¬s.Configures label) :
    (w.run tools steps).findConfig config = w.findConfig config := by
  induction steps generalizing w with
  | nil => rfl
  | cons s rest ih =>
    obtain ⟨hs, hrest⟩ := List.forall_mem_cons.mp h
    rw [run, ih hrest, findConfig_step tools hs]

/-- While neither another factory nor another configuration is made under its names, a factory
stands for the options and the configuration that it was made with, as the other ways to open a file
do. -/
theorem means_run (tools : Toolkit) {factory : String} {config : Option String}
    (hmade : (w.step tools (.newFactory factory options config)).2.error = none)
    (steps : List Step) (hfactory : ∀ s ∈ steps, ¬s.Makes factory)
    (hconfig : ∀ s ∈ steps, ∀ label, config = some label → ¬s.Configures label) :
    let later := (w.step tools (.newFactory factory options config)).1.run tools steps
    ∃ m, (∀ any, later.Means options m (.factory factory) any) ∧
      later.Means options m (.single options) config ∧
      later.Means options m (.direct (some options)) config := by
  intro later
  obtain ⟨m, o, hm, ho⟩ := error_newFactory_eq_none_iff.mp hmade
  have hfound : later.factories factory = some ⟨o, m, w.compilerCount⟩ := by
    simp only [later]
    rw [factories_run tools steps hfactory, step, attempt, bound, hm, ho]
    exact update_same ..
  have hlater : later.findConfig config = .ok m := by
    simp only [later]
    rw [findConfig_run tools steps hconfig, findConfig_step tools (fun _ _ => id), hm]
  exact ⟨m, fun _ => .factory hfound ho rfl, .single hlater, .direct rfl hlater⟩

/-- The ways to open a file are interchangeable. In any session, any openings may be exchanged for
others that stand for the same options and the same configuration, and factories may be made or left
out: in all that follows the same is seen. And what a factory stands for is what it was made with.
-/
theorem interchangeable (tools : Toolkit) (w : World) :
    (∀ (v : World) (steps steps' : List Step), w.sight = v.sight →
      Exchanged tools w v steps steps' → w.allShown tools steps = v.allShown tools steps') ∧
    (∀ (factory : String) (options : Value) (config : Option String) (steps : List Step),
      let made := w.step tools (.newFactory factory options config)
      made.2.error = none → (∀ s ∈ steps, ¬s.Makes factory) →
      (∀ s ∈ steps, ∀ label, config = some label → ¬s.Configures label) →
      let later := made.1.run tools steps
      ∃ n, (∀ any, later.Means options n (.factory factory) any) ∧
        later.Means options n (.single options) config ∧
        later.Means options n (.direct (some options)) config) :=
  ⟨fun _ _ _ h hx => allShown_exchanged hx h,
    fun _ _ _ steps hmade hfactory hconfig => means_run tools hmade steps hfactory hconfig⟩

/-- Two templates of one factory, and each of them opened for itself. A switch that has no effect is
reported once by the factory, and twice without it. -/
theorem interchangeable_two :
    let tools : Toolkit := ⟨fun _ source => .ok source, fun _ => none⟩
    let options : Value := .map [(.text "minify", .map [(.text "lint", .bool true)])]
    let w : World := {}
    let made := w.step tools (.newFactory "t" options none)
    let between : List Step := [.openFile "a" "a.twig" (.factory "t") none, .write "a" [0x61]]
    let ends : List Step := [.finish "a", .finish "b"]
    let steps : List Step :=
      .newFactory "t" options none :: between ++ .openFile "b" "b.html" (.factory "t") none :: ends
    let steps' : List Step :=
      [.openFile "a" "a.twig" (.single options) none, .write "a" [0x61],
        .openFile "b" "b.html" (.direct (some options)) none] ++ ends
    let records (steps : List Step) : List LogRecord :=
      (w.trace tools steps).flatMap fun (w, s) => (w.step tools s).2.records
    made.2.error = none ∧ (∀ s ∈ between, ¬s.Makes "t") ∧
      (∀ s ∈ between, ∀ label, none = some label → ¬s.Configures label) ∧
      Exchanged tools w w steps steps' ∧ w.allShown tools steps = w.allShown tools steps' ∧
      (records steps).count (Minify.ineffectiveRecord .lint) = 1 ∧
      (records steps').count (Minify.ineffectiveRecord .lint) = 2 := by
  intro tools options w made between ends steps steps' records
  have hmade : made.2.error = none := rfl
  have hbetween : ∀ s ∈ between, ¬s.Makes "t" := by simp [between, Step.Makes]
  have hlabels : ∀ s ∈ between, ∀ label, none = some label → ¬s.Configures label :=
    fun _ _ _ h => nomatch h
  have hzero {v : World} {m : Nat} (h : v.Means options m (.single options) none) : m = 0 := by
    cases h with
    | single hm => exact (Except.ok.inj hm).symm
  obtain ⟨m, hfirst, hm, -⟩ := (interchangeable tools w).2 "t" options none [] hmade (by simp)
    (by simp)
  obtain ⟨n, hsecond, hn, -⟩ := (interchangeable tools w).2 "t" options none between hmade hbetween
    hlabels
  cases hzero hm
  cases hzero hn
  have hx : Exchanged tools w w steps steps' :=
    .drop ⟨⟨"t", rfl⟩, hmade⟩ (.replace (.opening (hfirst none) (.single rfl))
      (.replace (.same fun _ => False.elim) (.replace (.opening (hsecond none) (.direct rfl rfl))
        (.replace (.same fun _ => False.elim) (.replace (.same fun _ => False.elim) .nil)))))
  have hshown := (interchangeable tools w).1 w steps steps' rfl hx
  exact ⟨hmade, hbetween, hlabels, hx, hshown, by decide +kernel, by decide +kernel⟩

end World

end Stencil.Session
