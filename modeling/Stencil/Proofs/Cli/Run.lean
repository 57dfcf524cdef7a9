import Stencil.Cli.Run
import Stencil.Proofs.Cli.Disk
import Stencil.Proofs.Result
import Stencil.Proofs.Transform.Operation

/-!
How a run of the command on a disk can go. Arguments and options are read without touching the disk,
and so is the input opened; then the output is emptied, the input is read, and what a transform
makes of it is added to the output.
-/
namespace Stencil.Cli

open Text Options

/-- What a transform with options makes of bytes that come at once, under the configuration that is
there by default. -/
def made (tools : Toolkit) (path : String) (o : TransformOptions) (data : Bytes) :
    FileTransform.Ran (List Switch) :=
  let opened := FileTransform.opened path o {}
  opened.1.run (Compiler.template tools) [] opened.2.1 [data]

/-- A template is compiled, with its bytes as they come in all. -/
theorem run_opened_template (tools : Toolkit) {path : String} {o : TransformOptions}
    (he : Path.isEligible path o.resolveExtensions = true) (chunks : List Bytes) :
    (FileTransform.opened path o {}).1.run (Compiler.template tools) []
        (FileTransform.opened path o {}).2.1 chunks =
      FileTransform.ended path (FileTransform.compilation (Compiler.template tools) path []
        (BuildConfig.merge {} o) chunks.flatten) := by
  rw [FileTransform.opened_template {} he, FileTransform.run_buffering _ rfl]
  rfl

/-- Any other file comes out as it comes in. -/
theorem run_opened_other (tools : Toolkit) {path : String} {o : TransformOptions}
    (he : Path.isEligible path o.resolveExtensions = false) (chunks : List Bytes) :
    (FileTransform.opened path o {}).1.run (Compiler.template tools) []
        (FileTransform.opened path o {}).2.1 chunks =
      ⟨⟨path, .passthrough, []⟩, [], [], chunks, none⟩ := by
  rw [FileTransform.opened_other {} he, FileTransform.run_passthrough rfl]

theorem made_other (tools : Toolkit) {path : String} {o : TransformOptions}
    (he : Path.isEligible path o.resolveExtensions = false) (data : Bytes) :
    made tools path o data = ⟨⟨path, .passthrough, []⟩, [], [], [data], none⟩ :=
  run_opened_other tools he [data]

/-- It makes the same of bytes that are read piece by piece. -/
theorem run_pieces (tools : Toolkit) (path : String) (o : TransformOptions) (data : Bytes) :
    let ran := (FileTransform.opened path o {}).1.run (Compiler.template tools) []
      (FileTransform.opened path o {}).2.1 (ByteStream.inMemory.pieces chunkSize data)
    ran.error = (made tools path o data).error ∧
      ran.emitted.flatten = (made tools path o data).emitted.flatten := by
  have hall : (ByteStream.inMemory.pieces chunkSize data).flatten = [data].flatten := by
    rw [List.flatten_singleton]
    exact ByteStream.inMemory.flatten_pieces (by decide) data
  rw [made]
  cases he : Path.isEligible path o.resolveExtensions with
  | true => simp only [run_opened_template tools he, hall, and_self]
  | false => simp only [run_opened_other tools he, hall, and_self]

/-! ### What a command does to a disk, step by step -/

namespace Disk

def tried {α : Type} (path : String) (opened : Except FileFault α) : Except OpenError α :=
  if hasNull path then .error .nullCharacter else opened.mapError .fault

def openInput (d : Disk) (path : String) : Except OpenError (Option Nat) :=
  if isStream path then .ok none else (tried path (d.openFile path)).map some

def openOutput (d : Disk) (path : String) : Except OpenError (Option Nat × Disk) :=
  if isStream path then .ok (none, d)
  else (tried path (d.emptyFile path)).map fun (n, d') => (some n, d')

def inputBytes (d : Disk) : Option Nat → Bytes
  | none => d.input
  | some n => d.content n

def addOutput (d : Disk) (bytes : Bytes) : Option Nat → Disk
  | none => { d with output := d.output ++ bytes }
  | some n => d.addToFile n bytes

variable (d : Disk) (path : String) (bytes : Bytes)

@[simp] theorem run_openFile : (access.openFile path).run d = pure (d.openFile path, d) := rfl

@[simp] theorem run_readFile (n : Nat) : (access.readFile n).run d = pure (d.content n, d) := rfl

@[simp] theorem run_emptyFile :
    (access.emptyFile path).run d =
      pure (match d.emptyFile path with
        | .ok (n, d') => (.ok n, d')
        | .error f => (.error f, d)) := by
  simp only [access, StateT.run_bind, StateT.run_get, pure_bind]
  cases d.emptyFile path <;> rfl

@[simp] theorem run_addToFile (n : Nat) :
    (access.addToFile n bytes).run d = pure ((), d.addToFile n bytes) := rfl

@[simp] theorem run_readInput : access.readInput.run d = pure (d.input, d) := rfl

@[simp] theorem run_addToOutput :
    (access.addToOutput bytes).run d = pure ((), { d with output := d.output ++ bytes }) := rfl

@[simp] theorem run_tried_openFile :
    (Cli.tried path (access.openFile path)).run d = pure (tried path (d.openFile path), d) := by
  rw [Cli.tried, tried]
  split <;> simp

@[simp] theorem run_openInput :
    (Cli.openInput access path).run d = pure (d.openInput path, d) := by
  rw [Cli.openInput, openInput]
  split <;> simp

@[simp] theorem run_openOutput :
    (Cli.openOutput access path).run d =
      pure (match d.openOutput path with
        | .ok (target, d') => (.ok target, d')
        | .error e => (.error e, d)) := by
  rw [Cli.openOutput, openOutput, Cli.tried, tried]
  split
  · simp
  · split
    · simp [Except.map]
    · cases h : d.emptyFile path <;> simp [h, Except.map, mapError_mk_ok, mapError_mk_error]

@[simp] theorem run_inputBytes (source : Option Nat) :
    (Cli.readInput access source).run d = pure (d.inputBytes source, d) := by
  cases source <;> rfl

@[simp] theorem run_addOutput (target : Option Nat) :
    (Cli.addToOutput access bytes target).run d = pure ((), d.addOutput bytes target) := by
  cases target <;> rfl

variable {d path} {d' : Disk} {source target : Option Nat}

theorem tried_eq_ok {α : Type} {opened : Except FileFault α} {x : α} :
    tried path opened = .ok x ↔ hasNull path = false ∧ opened = .ok x := by
  rw [tried]
  cases hasNull path <;> simp [mapError_ok]

theorem map_tried_eq_ok {α β : Type} {opened : Except FileFault α} {f : α → β} {y : β} :
    (tried path opened).map f = .ok y ↔
      hasNull path = false ∧ ∃ x, opened = .ok x ∧ f x = y := by
  rw [map_ok]
  simp only [tried_eq_ok, and_assoc, exists_and_left]

theorem openInput_eq_ok :
    d.openInput path = .ok source ↔
      isStream path = true ∧ none = source ∨
        isStream path = false ∧ hasNull path = false ∧
          ∃ n, d.openFile path = .ok n ∧ some n = source := by
  rw [openInput]
  cases isStream path with
  | true => simp
  | false => simp [map_tried_eq_ok]

theorem openOutput_eq_ok :
    d.openOutput path = .ok (target, d') ↔
      isStream path = true ∧ none = target ∧ d = d' ∨
        isStream path = false ∧ hasNull path = false ∧
          ∃ n, d.emptyFile path = .ok (n, d') ∧ some n = target := by
  rw [openOutput]
  cases isStream path with
  | true => simp
  | false =>
    simp only [Bool.false_eq_true, if_false, false_and, true_and, false_or]
    rw [map_tried_eq_ok]
    refine and_congr_right fun _ => ⟨?_, ?_⟩
    · rintro ⟨⟨n, emptied⟩, hn, heq⟩
      cases heq
      exact ⟨n, hn, rfl⟩
    · rintro ⟨n, hn, rfl⟩
      exact ⟨(n, d'), hn, rfl⟩

variable (d)

def options (a : Arguments) : Except LoadError TransformOptions :=
  (Id.run ((buildOptions access a).run d)).1

theorem run_loadOptions (config : Option String) :
    ∃ loaded, (loadOptions access config).run d = pure (loaded, d) := by
  rw [loadOptions]
  cases Arguments.given config with
  | none => exact ⟨_, rfl⟩
  | some path =>
    cases h : tried path (d.openFile path) with
    | error e => exact ⟨.error (.opening e path), by simp [h]⟩
    | ok n => exact ⟨(TransformOptions.ofFile (d.content n)).mapError .content, by simp [h]⟩

@[simp] theorem run_buildOptions (a : Arguments) :
    (buildOptions access a).run d = pure (d.options a, d) := by
  obtain ⟨loaded, hloaded⟩ := d.run_loadOptions a.config
  rw [options, buildOptions]
  cases loaded <;> simp [hloaded]

end Disk

/-! ### How a run goes -/

/-- Why a run is refused before its output is opened: its arguments or its options are wrong, or its
input or its output cannot be opened. -/
inductive Refused (arguments : List String) (d : Disk) : Prop where
  | badArguments (e : ArgumentError) (h : readArguments arguments = .error e)
  | noPath (a : Arguments) (h : readArguments arguments = .ok (.run a))
      (hpath : isStream a.templatePath = true)
  | badOptions (a : Arguments) (h : readArguments arguments = .ok (.run a)) (e : LoadError)
      (he : d.options a = .error e)
  | noInput (a : Arguments) (h : readArguments arguments = .ok (.run a)) (f : FileFault)
      (hf : d.openInput a.input = .error (.fault f))
  | noOutput (a : Arguments) (h : readArguments arguments = .ok (.run a)) (f : FileFault)
      (hf : d.openOutput a.output = .error (.fault f))

/-- A run comes to the path of its input or of its output, and there is a null character in it. -/
structure MeetsNull (arguments : List String) (d : Disk) (a : Arguments) : Prop where
  arguments_eq : readArguments arguments = .ok (.run a)
  path : isStream a.templatePath = false
  options : ∃ o, d.options a = .ok o
  null : d.openInput a.input = .error .nullCharacter ∨
    (∃ source, d.openInput a.input = .ok source) ∧ d.openOutput a.output = .error .nullCharacter

inductive Course (tools : Toolkit) (arguments : List String) (d : Disk) :
    Ending → Disk → Prop where
  | help (h : readArguments arguments = .ok .help) :
      Course tools arguments d (.status 0)
        { d with output := d.output ++ encodeUtf8 helpText.toList }
  | refused (h : Refused arguments d) : Course tools arguments d (.status 2) d
  | unreadable (a : Arguments) (h : readArguments arguments = .ok (.run a))
      (hpath : isStream a.templatePath = false) (f : Yaml.Failure)
      (hf : d.options a = .error (.content (.document f)))
      (hcrash : (LoadError.content (.document f)).outcome.ending = .crash (.document f)) :
      Course tools arguments d (.crash (.document f)) d
  | nullCharacter (a : Arguments) (h : MeetsNull arguments d a) :
      Course tools arguments d (.crash .nullCharacter) d
  | transformed (a : Arguments) (h : readArguments arguments = .ok (.run a))
      (hpath : isStream a.templatePath = false) (o : TransformOptions) (ho : d.options a = .ok o)
      (source : Option Nat) (hi : d.openInput a.input = .ok source) (target : Option Nat)
      (opened : Disk) (hopened : d.openOutput a.output = .ok (target, opened)) :
      Course tools arguments d
        (endingOf (made tools a.templatePath o (opened.inputBytes source)).error)
        (opened.addOutput
          (made tools a.templatePath o (opened.inputBytes source)).emitted.flatten target)

theorem ending_of_loadError (e : LoadError) :
    e.outcome.ending = .status 2 ∨
      ∃ f, e = .content (.document f) ∧ e.outcome.ending = .crash (.document f) := by
  cases e with
  | opening e path => cases e <;> exact .inl rfl
  | content e =>
    cases e with
    | undecodable => exact .inl rfl
    | options issues => exact .inl rfl
    | document f => cases f <;> first | exact .inl rfl | exact .inr ⟨_, rfl, rfl⟩

@[simp] theorem ending_wrong (e : ArgumentError) : (Outcome.wrong e).ending = .status 2 := rfl

@[simp] theorem ending_reported (verbose : Bool) (ending : Ending) (records : List LogRecord) :
    (Outcome.reported verbose ending records).ending = ending := rfl

/-- With options at hand, a run opens the input and the output, and transforms. -/
theorem course_transform (tools : Toolkit) {arguments : List String} {d : Disk}
    {a : Arguments} (h : readArguments arguments = .ok (.run a))
    (hpath : isStream a.templatePath = false) {o : TransformOptions}
    (ho : d.options a = .ok o) :
    let ran := Id.run ((transform Disk.access tools a o).run d)
    Course tools arguments d ran.1.ending ran.2 := by
  rw [transform]
  cases hi : d.openInput a.input with
  | error e =>
    cases e with
    | fault f => simpa [hi, OpenError.outcome] using Course.refused (.noInput a h f hi)
    | nullCharacter =>
      have hnull : MeetsNull arguments d a := ⟨h, hpath, ⟨o, ho⟩, .inl hi⟩
      simpa [hi, OpenError.outcome] using Course.nullCharacter a hnull
  | ok source =>
    cases hopened : d.openOutput a.output with
    | error e =>
      cases e with
      | fault f =>
        simpa [hi, hopened, OpenError.outcome] using Course.refused (.noOutput a h f hopened)
      | nullCharacter =>
        have hnull : MeetsNull arguments d a := ⟨h, hpath, ⟨o, ho⟩, .inr ⟨⟨source, hi⟩, hopened⟩⟩
        simpa [hi, hopened, OpenError.outcome] using Course.nullCharacter a hnull
    | ok p =>
      obtain ⟨target, opened⟩ := p
      obtain ⟨herror, hemitted⟩ := run_pieces tools a.templatePath o (opened.inputBytes source)
      have hcourse : Course tools arguments d _ _ :=
        .transformed a h hpath o ho source hi target opened hopened
      simpa [hi, hopened, herror, hemitted] using hcourse

/-- Every run goes in one of these ways. -/
theorem course_run (tools : Toolkit) (arguments : List String) (d : Disk) :
    let ran := Id.run ((run Disk.access tools arguments).run d)
    Course tools arguments d ran.1.ending ran.2 := by
  rw [run]
  cases h : readArguments arguments with
  | error e => exact .refused (.badArguments e h)
  | ok reply =>
    cases reply with
    | help => exact .help h
    | run a =>
      cases hpath : isStream a.templatePath with
      | true => simpa [hpath] using Course.refused (.noPath a h hpath)
      | false =>
        cases ho : d.options a with
        | ok o => simpa [hpath, ho] using course_transform tools h hpath ho
        | error e =>
          rcases ending_of_loadError e with he | ⟨f, rfl, he⟩
          · simpa [hpath, ho, he] using Course.refused (.badOptions a h e ho)
          · simpa [hpath, ho, he] using Course.unreadable a h hpath f ho he

end Stencil.Cli
