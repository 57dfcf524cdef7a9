import Mathlib.Logic.IsEmpty.Basic
import Stencil.Proofs.Result
import Stencil.Proofs.Transform.Delivery

/-!
Templates whose names are left to the module loader. Where such a template lies, and which aliases
there are, makes no difference to its module; and if it has none, only the file that this is
reported for is another one.
-/
namespace Stencil

open Text Options

namespace CompileFailure

/-- The failure as it is reported for a file, whatever it was reported for before. -/
def forFile (path : String) : CompileFailure → CompileFailure
  | .error e => .error { e with name := some path }
  | .breakdown b => .breakdown b

def Concerns (path : String) : CompileFailure → Prop
  | .error e => e.name = none ∨ e.name = some path
  | .breakdown _ => True

theorem withName_eq {e : CompileError} {path : String} (h : Concerns path (.error e)) :
    e.withName path = { e with name := some path } := by
  rcases h with h | h <;> simp [CompileError.withName, h]

theorem forFile_failureFor (path name : String) (f : Template.Failure) :
    (Tree.failureFor name f).forFile path = Tree.failureFor path f := by
  cases f <;> rfl

theorem concerns_failureFor (path : String) (f : Template.Failure) :
    (Tree.failureFor path f).Concerns path := by
  cases f with
  | fault f => exact .inr rfl
  | tooManyDigits | foreignDigit | nestedTooDeeply => trivial

end CompileFailure

namespace Compiler

open CompileFailure

variable {names : Template.CharacterNames} {identifier : Identifier} {source : List Char}

/-- The name of a file is only what failures are reported for. -/
theorem compileMarkup_forFile (names : Template.CharacterNames) (identifier : Identifier)
    (source : List Char) (name path : String) :
    (compileMarkup names identifier source name).2.mapError (forFile path) =
      (compileMarkup names identifier source path).2 := by
  simp only [compileMarkup, Tree.tokenize]
  cases Tree.ofSource names source with
  | error f => simp only [mapError_mk_error, forFile_failureFor]
  | ok tree =>
    simp only [mapError_mk_ok]
    cases (Tree.treeJson tree).serialize <;> rfl

theorem concerns_compileMarkup {path : String} {f : CompileFailure}
    (h : (compileMarkup names identifier source path).2 = .error f) : f.Concerns path := by
  simp only [compileMarkup, Tree.tokenize] at h
  cases ho : Tree.ofSource names source with
  | error failure =>
    simp only [ho, mapError_mk_error] at h
    cases h
    exact concerns_failureFor path failure
  | ok tree =>
    simp only [ho, mapError_mk_ok] at h
    cases hs : (Tree.treeJson tree).serialize <;> simp only [hs] at h <;> cases h
    trivial

/-- Of a configuration, a compilation needs the settings of the minifier only. What was reported
before and the name of the file do not matter, but for whom a failure is reported. -/
theorem template_forFile (tools : Toolkit) (reported reported' : List Switch)
    (identifier : Identifier) (source : List Char) {config config' : BuildConfig}
    (h : config.minify = config'.minify) (name name' path : String) :
    (template tools reported identifier source config name).result.mapError (forFile path) =
      (template tools reported' identifier source config' name').result.mapError
        (forFile path) := by
  have hmarkup (markup : List Char) :
      (compileMarkup tools.names identifier markup name).2.mapError (forFile path) =
        (compileMarkup tools.names identifier markup name').2.mapError (forFile path) := by
    rw [compileMarkup_forFile, compileMarkup_forFile]
  simp only [template, h]
  cases config'.minify with
  | none => exact hmarkup source
  | some o =>
    simp only [Minify.minified]
    cases Minify.run tools.engine o source with
    | error e => rfl
    | ok markup => exact hmarkup markup

theorem concerns_template {tools : Toolkit} {reported : List Switch} {config : BuildConfig}
    {path : String} {f : CompileFailure}
    (h : (template tools reported identifier source config path).result = .error f) :
    f.Concerns path := by
  simp only [template] at h
  cases hminify : config.minify with
  | none =>
    simp only [hminify] at h
    exact concerns_compileMarkup h
  | some o =>
    simp only [hminify, Minify.minified, Minify.run] at h
    cases hengine : tools.engine (Minify.arguments o) source with
    | error reason =>
      simp only [hengine, mapError_mk_error] at h
      cases h
      exact .inl rfl
    | ok markup =>
      simp only [hengine, mapError_mk_ok] at h
      exact concerns_compileMarkup h

end Compiler

/-- A template from its opening to its end: what it is opened with, what is written to it, and the
operation that ends it, with the configuration of that moment. -/
structure TemplateRun (ι : Type) where
  path : String
  options : TransformOptions
  eligible : Path.isEligible path options.resolveExtensions = true
  initial : BuildConfig
  written : List (Operation ι × BuildConfig)
  isWrite : ∀ p ∈ written, p.1.IsWrite
  last : Operation ι
  ends : last.Ends
  current : BuildConfig

namespace TemplateRun

open FileTransform

def bytes (v : TemplateRun ι) : Bytes :=
  (v.written.flatMap (·.1.given)).flatten ++ v.last.given.flatten

/-- What is done with the template after it was opened. -/
def operations (v : TemplateRun ι) : List (Operation ι × BuildConfig) :=
  v.written ++ [(v.last, v.current)]

/-- What is seen of the template. -/
def seen (compile : Compiler σ) (compiler : σ) (v : TemplateRun ι) : Delivered :=
  (opened v.path v.options v.initial).1.seenAll compile compiler v.operations

theorem seen_eq (compile : Compiler σ) (compiler : σ) (v : TemplateRun ι) :
    v.seen compile compiler =
      (ended v.path (compilation compile v.path compiler v.current v.bytes)).seen := by
  rw [seen, opened_template v.initial v.eligible, operations,
    seenAll_buffering compile rfl compiler _ v.isWrite v.ends]
  rfl

end TemplateRun

/-- What is seen of two templates, of one path and of another, if they differ in nothing but the
file that a failure is reported for. -/
inductive SameElsewhere (path path' : String) : Delivered → Delivered → Prop
  | module (text : Bytes) :
      SameElsewhere path path' ⟨text, [], ⟨path, .finished, []⟩⟩ ⟨text, [], ⟨path', .finished, []⟩⟩
  | refused (kind : CompileErrorKind) (message : String) (line : Option Nat) :
      SameElsewhere path path'
        ⟨[], [.compilation (.error ⟨kind, message, some path, line⟩)], ⟨path, .failed, []⟩⟩
        ⟨[], [.compilation (.error ⟨kind, message, some path', line⟩)], ⟨path', .failed, []⟩⟩
  | breakdown (b : Breakdown) :
      SameElsewhere path path'
        ⟨[], [.compilation (.breakdown b)], ⟨path, .buffering, []⟩⟩
        ⟨[], [.compilation (.breakdown b)], ⟨path', .buffering, []⟩⟩

def refusal (path : String) : CompileFailure → Delivered
  | .error e => ⟨[], [.compilation (.error e)], ⟨path, .failed, []⟩⟩
  | .breakdown b => ⟨[], [.compilation (.breakdown b)], ⟨path, .buffering, []⟩⟩

theorem seen_ended_error {path : String} {c : Compiled σ} {f : CompileFailure}
    (h : c.result = .error f) (hf : f.Concerns path) :
    (FileTransform.ended path c).seen = refusal path (f.forFile path) := by
  rw [FileTransform.ended, h]
  cases f with
  | error e =>
    simp only [CompileFailure.withName_eq hf]
    rfl
  | breakdown b => rfl

theorem sameElsewhere_refusal (path path' : String) (f : CompileFailure) :
    SameElsewhere path path' (refusal path (f.forFile path)) (refusal path' (f.forFile path')) := by
  cases f with
  | error e => exact .refused ..
  | breakdown b => exact .breakdown b

theorem sameElsewhere_ended {path path' : String} {c c' : Compiled σ}
    (h : c.result.mapError (CompileFailure.forFile path') =
      c'.result.mapError (CompileFailure.forFile path'))
    (hc : ∀ f, c.result = .error f → f.Concerns path)
    (hc' : ∀ f, c'.result = .error f → f.Concerns path') :
    SameElsewhere path path' (FileTransform.ended path c).seen
      (FileTransform.ended path' c').seen := by
  cases hr : c.result with
  | ok fragment =>
    have hr' : c'.result = .ok fragment := by
      cases hr' : c'.result <;> rw [hr, hr'] at h <;> cases h
      rfl
    rw [FileTransform.ended, FileTransform.ended, hr, hr']
    exact .module _
  | error f =>
    cases hr' : c'.result with
    | ok fragment =>
      rw [hr, hr'] at h
      cases h
    | error f' =>
      rw [hr, hr'] at h
      rw [seen_ended_error hr (hc f hr), seen_ended_error hr' (hc' f' hr'), ← Except.error.inj h]
      exact sameElsewhere_refusal path path' f

/-- Templates whose names are left to the module loader become the same wherever they lie: of the
same bytes, and with the same settings of the minifier, the same module is made, or the same failure
is reported, for one file and for the other. Aliases, options, the way of writing and what was
reported before do not matter. -/
theorem sameElsewhere_of_relative (tools : Toolkit) (reported reported' : List Switch)
    (v : TemplateRun ι) (w : TemplateRun κ) (hv : v.current.relativePath = true)
    (hw : w.current.relativePath = true) (hminify : v.current.minify = w.current.minify)
    (hbytes : v.bytes = w.bytes) :
    SameElsewhere v.path w.path (v.seen (Compiler.template tools) reported)
      (w.seen (Compiler.template tools) reported') := by
  have hdeferred (path : String) (aliases : Option Aliases) :
      Path.identifier path true aliases = .deferred := rfl
  rw [v.seen_eq, w.seen_eq]
  simp only [FileTransform.compilation, hv, hw, hdeferred, hbytes]
  refine sameElsewhere_ended ?_ ?_ ?_
  · exact Compiler.template_forFile tools reported reported' _ _ hminify v.path w.path w.path
  · exact fun f hf => Compiler.concerns_template hf
  · exact fun f hf => Compiler.concerns_template hf

/-- A template that is not closed, in one piece and in three, in two places and with different
aliases. -/
theorem sameElsewhere_unclosed :
    let tools : Toolkit := ⟨fun _ source => .ok source, fun _ => none⟩
    let relative (aliases : Option Aliases) : BuildConfig := ⟨some .default, true, aliases⟩
    let v : TemplateRun Bytes :=
      { path := "a.twig", options := {}, eligible := by decide +kernel, initial := {}
        written := [], isWrite := by simp
        last := .iterate [encodeUtf8 "a\n\x7b% if b %\x7d".toList], ends := trivial
        current := relative none }
    let w : TemplateRun Bytes :=
      { path := "views/b.HTML", options := {}, eligible := by decide +kernel, initial := {}
        written := [(.write (encodeUtf8 "a\n\x7b%".toList), {})]
        isWrite := by simp [Operation.IsWrite]
        last := .stream .inMemory 5 (encodeUtf8 " if b %\x7d".toList), ends := trivial
        current := relative (some [("views", "@")]) }
    let message := "Unexpected end of template. Jinja was looking for the following tags: " ++
      "'elif' or 'else' or 'endif'. The innermost block that needs to be closed is 'if'."
    v.current.relativePath = true ∧ w.current.relativePath = true ∧
      v.current.minify = w.current.minify ∧ v.bytes = w.bytes ∧
      SameElsewhere v.path w.path (v.seen (Compiler.template tools) [])
        (w.seen (Compiler.template tools) [.lint]) ∧
      (w.seen (Compiler.template tools) [.lint]).errors =
        [.compilation (.error ⟨.tokenize, message, some "views/b.HTML", some 2⟩)] := by
  intro tools relative v w message
  have hbytes : v.bytes = w.bytes := by decide +kernel
  have hsame := sameElsewhere_of_relative tools [] [.lint] v w rfl rfl rfl hbytes
  exact ⟨rfl, rfl, rfl, hbytes, hsame, by decide +kernel⟩

end Stencil
