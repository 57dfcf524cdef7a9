import Stencil.Proofs.Minify.Reports
import Stencil.Proofs.Session.Opening

/-!
What the minifiers of a session report. A step asks a minifier at most once: where it ends a
collected template under a configuration with settings. So over all steps on the files of a factory,
its minifier reports each switch without an effect once, and what it has reported changes nothing
else that is seen of a step.
-/
namespace Stencil

open Text Options Session Minify

namespace Session

/-- The details that the minifier reports. -/
def minifierDetails (records : List LogRecord) : List LogRecord := records.filter isMinifierDetail

theorem minifierDetails_append (xs ys : List LogRecord) :
    minifierDetails (xs ++ ys) = minifierDetails xs ++ minifierDetails ys := List.filter_append ..

theorem minifierDetails_reported (switches : List Switch) :
    minifierDetails (switches.map ineffectiveRecord) = switches.map ineffectiveRecord := by
  simp [minifierDetails, isMinifierDetail, ineffectiveRecord]

end Session

namespace Compiler

theorem details_compileMarkup (names : Template.CharacterNames) (identifier : Identifier)
    (source : List Char) (name : String) :
    minifierDetails (compileMarkup names identifier source name).1 = [] := by
  rw [compileMarkup]
  cases Tree.tokenize names name source with
  | error e => rfl
  | ok tree =>
    simp only
    split <;> simp [minifierDetails, isMinifierDetail, Tree.tokenizedRecord, compiledRecord]

/-- Without settings, a compilation does not ask the minifier. -/
theorem template_unminified {config : BuildConfig} (h : config.minify = none)
    (tools : Toolkit) (reported : List Switch) (identifier : Identifier)
    (source : List Char) (name : String) :
    let c := template tools reported identifier source config name
    c.compiler = reported ∧ minifierDetails c.records = [] := by
  simp only [template, h, details_compileMarkup, and_self]

/-- With settings, a compilation asks the minifier once, whatever comes of it. -/
theorem template_minified {config : BuildConfig} {o : MinifyOptions} (h : config.minify = some o)
    (tools : Toolkit) (reported : List Switch) (identifier : Identifier)
    (source : List Char) (name : String) :
    let c := template tools reported identifier source config name
    let m := minified tools.engine reported o source
    c.compiler = m.reported ∧ minifierDetails c.records = m.records := by
  simp only [template, h]
  have hrecords : minifierDetails (minified tools.engine reported o source).records =
      (minified tools.engine reported o source).records := minifierDetails_reported _
  cases (minified tools.engine reported o source).result with
  | error e => exact ⟨rfl, hrecords⟩
  | ok markup =>
    simp only [minifierDetails_append, hrecords, details_compileMarkup, List.append_nil, and_self]

end Compiler

namespace FileTransform

/-- The job of the minifier that an operation leads to: at the end of a collected template, if there
are settings. -/
def job? (t : FileTransform) (config : BuildConfig) (operation : Operation ι) : Option Job :=
  match t.state, operation with
  | .buffering, .finish | .buffering, .iterate _ | .buffering, .stream .. =>
    config.minify.map fun o =>
      ⟨o, decodeUtf8 (t.chunks.reverse.flatten ++ operation.given.flatten)⟩
  | _, _ => none

variable {t : FileTransform} {operation : Operation ι}

theorem job?_end (hs : t.state = .buffering) (he : operation.Ends) (config : BuildConfig) :
    t.job? config operation = config.minify.map fun o =>
      ⟨o, decodeUtf8 (t.chunks.reverse.flatten ++ operation.given.flatten)⟩ := by
  cases operation with
  | write | abort => cases he
  | _ => simp only [job?, hs]

theorem job?_eq_none (h : ¬(t.state = .buffering ∧ operation.Ends)) (config : BuildConfig) :
    t.job? config operation = none := by
  cases hs : t.state <;> cases operation <;> simp_all [job?, Operation.Ends]

theorem ended_compiler (path : String) (c : Compiled (List Switch)) :
    (ended path c).compiler = c.compiler ∧
      minifierDetails (ended path c).records = minifierDetails c.records := by
  simp only [ended]
  cases c.result with
  | ok fragment => exact ⟨rfl, rfl⟩
  | error failure =>
    cases failure with
    | error e => exact ⟨rfl, by rw [minifierDetails_append]; exact List.append_nil _⟩
    | breakdown b => exact ⟨rfl, rfl⟩

/-- What an operation does to its compiler is what the job of the minifier does, if there is one. -/
theorem perform_job? (tools : Toolkit) (t : FileTransform) (reported : List Switch)
    (config : BuildConfig) (operation : Operation ι) :
    let r := t.perform (Compiler.template tools) reported config operation
    match t.job? config operation with
    | none => r.compiler = reported ∧ minifierDetails r.records = []
    | some j =>
      let m := minified tools.engine reported j.options j.markup
      r.compiler = m.reported ∧ minifierDetails r.records = m.records := by
  intro r
  by_cases h : t.state = .buffering ∧ operation.Ends
  · obtain ⟨hs, he⟩ := h
    obtain ⟨hcompiler, hrecords⟩ := ended_compiler t.path (compilation (Compiler.template tools)
      t.path reported config (t.chunks.reverse.flatten ++ operation.given.flatten))
    simp only [r, perform_ended hs he]
    rw [job?_end hs he, hcompiler, hrecords, compilation]
    cases hm : config.minify with
    | none => exact Compiler.template_unminified hm ..
    | some o => exact Compiler.template_minified hm ..
  · obtain ⟨t', emitted, error, hperform⟩ := perform_otherwise h
    rw [job?_eq_none h]
    simp only [r, hperform, minifierDetails, List.filter_nil, and_self]

end FileTransform

namespace Session.World

variable {tools : Toolkit} {w w' : World} {s : Step} {n : Nat} {f : Factory}

/-- The job of a minifier that a step leads to, with the number of the compiler it belongs to. -/
def job? (w : World) (s : Step) : Option (Nat × Job) :=
  s.operation?.bind fun (name, operation) =>
    (w.files name).bind fun f =>
      (f.transform.job? (w.configs f.config) operation).map fun j => (f.compiler, j)

/-- The job that a step leads to of the minifier of one compiler. -/
def jobOf (w : World) (n : Nat) (s : Step) : Option Job :=
  (w.job? s).bind fun (m, j) => if m = n then some j else none

/-- The jobs of the minifier of a compiler in some steps. -/
def jobsOf (tools : Toolkit) (w : World) (n : Nat) (steps : List Step) : List Job :=
  (w.trace tools steps).filterMap fun (w, s) => w.jobOf n s

/-- What the minifier of a compiler reports in some steps, job by job. -/
def reportsOf (tools : Toolkit) (w : World) (n : Nat) (steps : List Step) :
    List (List LogRecord) :=
  (w.trace tools steps).filterMap fun (w, s) =>
    (w.jobOf n s).map fun _ => minifierDetails (w.step tools s).2.records

/-- A world whose compilers have reported nothing. -/
def unreported (w : World) : World := { w with compilers := fun _ => [] }

/-- What a step does to the compilers there are, and which details it reports: what the job of a
minifier does and reports, if the step leads to one. -/
inductive Consulted (tools : Toolkit) (w : World) :
    Option (Nat × Job) → World × Answer → Prop
  | silent {result} (hcount : w.compilerCount ≤ result.1.compilerCount)
      (hcompilers : ∀ n < w.compilerCount, result.1.compilers n = w.compilers n)
      (hdetails : minifierDetails result.2.records = []) : Consulted tools w none result
  | job {m j result} (hcount : w.compilerCount ≤ result.1.compilerCount)
      (hcompilers : result.1.compilers =
        update w.compilers m (minified tools.engine (w.compilers m) j.options j.markup).reported)
      (hdetails : minifierDetails result.2.records =
        (minified tools.engine (w.compilers m) j.options j.markup).records) :
      Consulted tools w (some (m, j)) result

/-- A new compiler leaves those that there are alone. -/
theorem compilers_addCompiler (w : World) :
    w.compilerCount ≤ w.addCompiler.compilerCount ∧
      ∀ n < w.compilerCount, w.addCompiler.compilers n = w.compilers n :=
  ⟨Nat.le_succ _, fun _ hn => update_other _ _ (Nat.ne_of_lt hn)⟩

theorem job?_operation {name : String} {operation : Operation Bytes} {file : OpenFile}
    (hs : s.operation? = some (name, operation)) (hf : w.files name = some file) :
    w.job? s = (file.transform.job? (w.configs file.config) operation).map fun j =>
      (file.compiler, j) := by
  simp [job?, hs, hf]

theorem job?_refused {e : StepError} (h : w.attempt tools s = .error e) : w.job? s = none := by
  rw [job?]
  cases hs : s.operation? with
  | none => rfl
  | some performed =>
    obtain ⟨name, operation⟩ := performed
    rw [attempt_operation hs, operate] at h
    cases hf : w.files name with
    | none => simp [hf]
    | some file => simp [hf] at h

theorem details_opened (path : String) (o : TransformOptions) (config : BuildConfig) :
    minifierDetails (FileTransform.opened path o config).2.2 = [] := by
  rw [FileTransform.opened]
  split <;> rfl

theorem consulted_step (tools : Toolkit) (w : World) (s : Step) :
    Consulted tools w (w.job? s) (w.step tools s) := by
  have heffect := effect_step tools w s
  generalize w.step tools s = result at heffect
  cases heffect with
  | refused h =>
    rw [job?_refused h]
    exact .silent (Nat.le_refl _) (fun _ _ => rfl) rfl
  | newConfig | merge | reset => exact .silent (Nat.le_refl _) (fun _ _ => rfl) rfl
  | newFactory h =>
    obtain ⟨-, -, -, -, rfl, -⟩ := bound_ok.mp h
    obtain ⟨hcount, hcompilers⟩ := compilers_addCompiler w
    exact .silent hcount hcompilers rfl
  | @openFile name path opening config w' f h =>
    have hdetails := details_opened path f.options (w'.configs f.config)
    rw [openWith_eq]
    generalize FileTransform.opened path f.options (w'.configs f.config) = made at hdetails
    rcases origin_ok h with rfl | rfl
    · exact .silent (Nat.le_refl _) (fun _ _ => rfl) hdetails
    · obtain ⟨hcount, hcompilers⟩ := compilers_addCompiler w
      exact .silent hcount hcompilers hdetails
  | @operation _ name operation file hs hf =>
    have hperform := FileTransform.perform_job? tools file.transform (w.compilers file.compiler)
      (w.configs file.config) operation
    rw [job?_operation hs hf]
    cases hj : file.transform.job? (w.configs file.config) operation with
    | none =>
      simp only [hj] at hperform
      obtain ⟨hcompiler, hdetails⟩ := hperform
      refine .silent (Nat.le_refl _) (fun n _ => ?_) hdetails
      by_cases hn : n = file.compiler
      · subst hn
        exact (update_same ..).trans hcompiler
      · exact update_other _ _ hn
    | some j =>
      simp only [hj] at hperform
      obtain ⟨hcompiler, hdetails⟩ := hperform
      exact .job (Nat.le_refl _) (congrArg (update w.compilers file.compiler) hcompiler) hdetails

/-- Over all steps, the minifier of a compiler reports what it would in its jobs alone. -/
theorem reportsOf_eq (tools : Toolkit) (hn : n < w.compilerCount) (steps : List Step) :
    w.reportsOf tools n steps =
      (minifiedAll tools.engine (w.compilers n) (w.jobsOf tools n steps)).map (·.records) := by
  induction steps generalizing w with
  | nil => rfl
  | cons s rest ih =>
    have hconsulted := consulted_step tools w s
    simp only [reportsOf, jobsOf, trace, List.filterMap_cons, jobOf] at ih ⊢
    generalize w.step tools s = result, w.job? s = job at hconsulted ⊢
    cases hconsulted with
    | silent hcount hcompilers hdetails =>
      exact (ih (Nat.lt_of_lt_of_le hn hcount)).trans (by rw [hcompilers n hn]; rfl)
    | @job m j _ hcount hcompilers hdetails =>
      have hrest := ih (Nat.lt_of_lt_of_le hn hcount)
      rw [hcompilers] at hrest
      by_cases hm : m = n
      · subst hm
        rw [update_same] at hrest
        simp only [Option.bind_some, if_true, Option.map_some, minifiedAll, List.map_cons, hdetails]
        exact congrArg _ hrest
      · rw [update_other _ _ (Ne.symm hm)] at hrest
        simpa only [Option.bind_some, if_neg hm, Option.map_none] using hrest

/-- A file that a factory opens has the minifier of that factory. -/
theorem compiler_openFile {name file path : String} {config : Option String}
    (h : w.factories name = some f) :
    ((w.step tools (.openFile file path (.factory name) config)).1.files file).map (·.compiler) =
      some f.compiler := by
  have horigin : w.origin config (.factory name) = .ok (w, f) := by rw [origin, h]
  rw [step_openFile horigin, openWith_eq]
  simp only [update_same, Option.map_some]

/-- A switch without an effect is reported once. Over any jobs of a minifier, each such switch is
reported in the first job that has it on, and every answer is that of a minifier which has reported
nothing. So it is for the minifier of a factory in any steps of a session: its files ask no other,
steps that do not ask it report nothing of the kind, and each step is seen as it would be if nothing
had been reported. -/
theorem reportedOnce (tools : Toolkit) :
    (∀ jobs : List Job,
      let answers := minifiedAll tools.engine [] jobs
      ReportedOnce (jobs.map (·.options)) (answers.map (·.records)) ∧
        answers.map (·.result) =
          jobs.map fun j => (minified tools.engine [] j.options j.markup).result) ∧
    (∀ (w w' : World) (name : String) (options : Value) (config : Option String) (f : Factory)
        (steps : List Step),
      w.bound options config = .ok (w', f) →
      let started := (w.step tools (.newFactory name options config)).1
      ReportedOnce ((started.jobsOf tools f.compiler steps).map (·.options))
          (started.reportsOf tools f.compiler steps) ∧
        started.factories name = some f ∧
        ∀ v s, (v, s) ∈ started.trace tools steps →
          (v.factories name = some f → ∀ file path any,
            s = .openFile file path (.factory name) any →
            ((v.step tools s).1.files file).map (·.compiler) = some f.compiler) ∧
          (v.job? s = none → minifierDetails (v.step tools s).2.records = []) ∧
          v.shown tools s = v.unreported.shown tools s) := by
  refine ⟨fun jobs => ⟨reportedOnce_minifiedAll tools.engine jobs,
    result_minifiedAll tools.engine [] jobs⟩, ?_⟩
  intro w w' name options config f steps hbound started
  obtain ⟨m, o, -, -, rfl, rfl⟩ := bound_ok.mp hbound
  have hstarted : started = { w.addCompiler with
      factories := update w.factories name (some ⟨o, m, w.compilerCount⟩) } := by
    simp only [started, step, attempt, hbound]
    rfl
  have hreports := reportsOf_eq (w := started) (n := w.compilerCount) tools
    (by rw [hstarted]; exact Nat.lt_succ_self _) steps
  have hfresh : started.compilers w.compilerCount = [] := by
    rw [hstarted]
    exact update_same ..
  refine ⟨?_, by rw [hstarted]; exact update_same .., fun v s hv => ⟨?_, fun hjob => ?_, ?_⟩⟩
  · rw [hreports, hfresh]
    exact reportedOnce_minifiedAll tools.engine _
  · rintro hf file path any rfl
    exact compiler_openFile hf
  · have hconsulted := consulted_step tools v s
    rw [hjob] at hconsulted
    cases hconsulted with
    | silent hcount hcompilers hdetails => exact hdetails
  · exact shown_same tools rfl fun _ _ => rfl

/-- Two files of one factory, and between them one that is opened for itself. -/
theorem reportedOnce_two :
    let tools : Toolkit := ⟨fun _ _ => .error "no", fun _ => none⟩
    let options : Value := .map [(.text "minify", .map [(.text "lint", .bool true)])]
    let started := (({} : World).step tools (.newFactory "t" options none)).1
    let steps : List Step :=
      [.openFile "a" "a.twig" (.factory "t") none, .finish "a",
        .openFile "b" "b.twig" (.single options) none, .finish "b",
        .openFile "c" "c.twig" (.factory "t") none, .finish "c"]
    ∃ w' f, ({} : World).bound options none = .ok (w', f) ∧
      ReportedOnce ((started.jobsOf tools f.compiler steps).map (·.options))
        (started.reportsOf tools f.compiler steps) ∧
      started.reportsOf tools f.compiler steps = [[ineffectiveRecord .lint], []] := by
  intro tools options started steps
  obtain ⟨w', f, hbound, hcompiler⟩ :
      ∃ w' f, ({} : World).bound options none = .ok (w', f) ∧ f.compiler = 0 := ⟨_, _, rfl, rfl⟩
  have hreported := ((reportedOnce tools).2 {} w' "t" options none f steps hbound).1
  exact ⟨w', f, hbound, hreported, by rw [hcompiler]; decide +kernel⟩

end Session.World

end Stencil
