import Stencil.Proofs.Cli.Flags
import Stencil.Proofs.Transform.Breakdown
import Stencil.Proofs.Yaml.Meaning

/-!
Which runs of the command end with a status. A run does not if the document of its options fails in
a way that is not told of, if there is a null character in the path of its input or of its output,
or if the markup of its template makes the compilation break down; any other run ends with status 0,
1 or 2.
-/
namespace Stencil.Cli

open Text Options

def Ending.IsStatus : Ending → Prop
  | .status n => n ≤ 2
  | .crash _ => False

instance : DecidablePred Ending.IsStatus
  | .status n => inferInstanceAs (Decidable (n ≤ 2))
  | .crash _ => isFalse id

/-- Reading the document of the options fails: it is named, can be opened and is text, but has no
value. -/
def Disk.FailsToRead (d : Disk) (a : Arguments) (f : Yaml.Failure) : Prop :=
  ∃ path n text, Arguments.given a.config = some path ∧ hasNull path = false ∧
    d.openFile path = .ok n ∧ decodeUtf8? (d.content n) = some text ∧ Yaml.read text = .error f

inductive Fails (tools : Toolkit) (arguments : List String) (d : Disk) : Crash → Prop where
  | document (a : Arguments) (h : readArguments arguments = .ok (.run a))
      (hpath : isStream a.templatePath = false) (f : Yaml.Failure) (hf : d.FailsToRead a f)
      (ht : ¬f.IsTold) : Fails tools arguments d (.document f)
  | nullCharacter (a : Arguments) (h : MeetsNull arguments d a) :
      Fails tools arguments d .nullCharacter
  | markup (a : Arguments) (h : readArguments arguments = .ok (.run a))
      (hpath : isStream a.templatePath = false) (o : TransformOptions) (ho : d.options a = .ok o)
      (source : Option Nat) (hi : d.openInput a.input = .ok source) (target : Option Nat)
      (opened : Disk) (hopened : d.openOutput a.output = .ok (target, opened))
      (he : Path.isEligible a.templatePath o.resolveExtensions = true) (markup : List Char)
      (hm : Minify.markup? tools.engine (BuildConfig.merge {} o)
        (decodeUtf8 (opened.inputBytes source)) = some markup)
      (b : Breakdown) (hb : Tree.BreaksDown tools.names markup b) :
      Fails tools arguments d (.breakdown b)

theorem ofFile_eq_document {bytes : Bytes} {f : Yaml.Failure} :
    TransformOptions.ofFile bytes = .error (.document f) ↔
      ∃ text, decodeUtf8? bytes = some text ∧ Yaml.read text = .error f := by
  rw [TransformOptions.ofFile]
  cases decodeUtf8? bytes with
  | none => simp
  | some text =>
    cases hv : Yaml.read text with
    | error e => simp [hv]
    | ok v =>
      simp only [Option.some.injEq, exists_eq_left', hv]
      cases TransformOptions.ofDocument v <;> simp [mapError_mk_ok, mapError_mk_error]

theorem Disk.options_eq_document {d : Disk} {a : Arguments} {f : Yaml.Failure} :
    d.options a = .error (.content (.document f)) ↔ d.FailsToRead a f := by
  rw [Disk.options, buildOptions_eq, loadOptions, Disk.FailsToRead]
  cases Arguments.given a.config with
  | none => simp [Except.map]
  | some path =>
    cases ho : tried path (d.openFile path) with
    | error e =>
      refine iff_of_false (by simp [ho, Except.map]) ?_
      rintro ⟨_, n, text, hgiven, hnull, hn, -⟩
      cases hgiven
      cases ho.symm.trans (tried_eq_ok.mpr ⟨hnull, hn⟩)
    | ok n =>
      obtain ⟨hnull, hn⟩ := tried_eq_ok.mp ho
      have hload : Except.map a.flagged ((TransformOptions.ofFile (d.content n)).mapError
          LoadError.content) = .error (.content (.document f)) ↔
          TransformOptions.ofFile (d.content n) = .error (.document f) := by
        simp [map_error, mapError_error]
      have hloaded := hload.trans ofFile_eq_document
      refine Iff.trans (by simpa [ho] using hloaded) ?_
      simp [hnull, hn]

theorem made_eq_breakdown (tools : Toolkit) (path : String) (o : TransformOptions)
    (data : Bytes) (b : Breakdown) :
    (made tools path o data).error = some (.compilation (.breakdown b)) ↔
      Path.isEligible path o.resolveExtensions = true ∧
        ∃ markup,
          Minify.markup? tools.engine (BuildConfig.merge {} o) (decodeUtf8 data) = some markup ∧
            Tree.BreaksDown tools.names markup b := by
  cases he : Path.isEligible path o.resolveExtensions with
  | false => simp [made_other tools he]
  | true =>
    rw [made, run_opened_template tools he, FileTransform.ended_eq_breakdown,
      FileTransform.compilation, Compiler.template_eq_breakdown, List.flatten_singleton]
    simp

theorem endingOf_eq_crash (error : Option TransformError) (c : Crash) :
    endingOf error = .crash c ↔
      ∃ b, error = some (.compilation (.breakdown b)) ∧ c = .breakdown b := by
  match error with
  | none => simp [endingOf]
  | some (.misuse request state) => simp [endingOf]
  | some (.compilation (.error e)) => simp [endingOf]
  | some (.compilation (.breakdown b)) => simp [endingOf, eq_comm]

theorem ending_document (f : Yaml.Failure) (c : Crash) :
    (LoadError.content (.document f)).outcome.ending = .crash c ↔ c = .document f ∧ ¬f.IsTold := by
  cases f <;> simp [LoadError.outcome, Yaml.Failure.IsTold, eq_comm]

theorem run_eq_transform {tools : Toolkit} {arguments : List String} {d : Disk} {a : Arguments}
    {o : TransformOptions} (h : readArguments arguments = .ok (.run a))
    (hpath : isStream a.templatePath = false) (ho : d.options a = .ok o) :
    (run Disk.access tools arguments).run d = (transform Disk.access tools a o).run d := by
  rw [run, h]
  simp [hpath, ho]

theorem exists_course (tools : Toolkit) (arguments : List String) (d : Disk) :
    ∃ ending d', (Id.run ((run Disk.access tools arguments).run d)).1.ending = ending ∧
      Course tools arguments d ending d' :=
  ⟨_, _, rfl, course_run tools arguments d⟩

/-- What keeps a run from ending with a status makes it crash. -/
theorem Fails.ending_eq {tools : Toolkit} {arguments : List String} {d : Disk} {c : Crash}
    (hc : Fails tools arguments d c) :
    (Id.run ((run Disk.access tools arguments).run d)).1.ending = .crash c := by
  cases hc with
  | document a h hpath f hf ht =>
    have hcrash := (ending_document f _).mpr ⟨rfl, ht⟩
    rw [run, h]
    simpa [hpath, Disk.options_eq_document.mpr hf] using hcrash
  | nullCharacter a h =>
    obtain ⟨o, ho⟩ := h.options
    rw [run_eq_transform h.arguments_eq h.path ho, transform]
    rcases h.null with hi | ⟨⟨source, hi⟩, hnull⟩
    · simp [hi, OpenError.outcome]
    · simp [hi, hnull, OpenError.outcome]
  | markup a h hpath o ho source hi target opened hopened he markup hm b hb =>
    have hmade := (made_eq_breakdown tools a.templatePath o _ b).mpr ⟨he, markup, hm, hb⟩
    have herror := (run_pieces tools a.templatePath o (opened.inputBytes source)).1
    rw [run_eq_transform h hpath ho, transform]
    simp [hi, hopened, herror, hmade, endingOf]

/-- A run crashes exactly if something keeps it from ending with a status. -/
theorem ending_eq_crash (tools : Toolkit) (arguments : List String) (d : Disk) (c : Crash) :
    (Id.run ((run Disk.access tools arguments).run d)).1.ending = .crash c ↔
      Fails tools arguments d c := by
  refine ⟨fun hc => ?_, Fails.ending_eq⟩
  obtain ⟨ending, d', hending, hcourse⟩ := exists_course tools arguments d
  rw [hending] at hc
  cases hcourse with
  | help | refused => cases hc
  | unreadable a h hpath f hf hcrash =>
    cases hc
    exact .document a h hpath f (Disk.options_eq_document.mp hf) ((ending_document f _).mp hcrash).2
  | nullCharacter a h =>
    cases hc
    exact .nullCharacter a h
  | transformed a h hpath o ho source hi target opened hopened =>
    obtain ⟨b, hmade, rfl⟩ := (endingOf_eq_crash _ c).mp hc
    obtain ⟨he, markup, hm, hb⟩ := (made_eq_breakdown tools _ o _ b).mp hmade
    exact .markup a h hpath o ho source hi target opened hopened he markup hm b hb

theorem isStatus_endingOf (error : Option TransformError) :
    (endingOf error).IsStatus ∨ ∃ c, endingOf error = .crash c := by
  match error with
  | none => exact .inl (Nat.zero_le 2)
  | some (.misuse request state) => exact .inl (Nat.le_succ 1)
  | some (.compilation (.error e)) => exact .inl (Nat.le_succ 1)
  | some (.compilation (.breakdown b)) => exact .inr ⟨_, rfl⟩

/-- A run ends with a status or crashes. -/
theorem isStatus_or_crash (tools : Toolkit) (arguments : List String) (d : Disk) :
    let ending := (Id.run ((run Disk.access tools arguments).run d)).1.ending
    ending.IsStatus ∨ ∃ c, ending = .crash c := by
  obtain ⟨ending, d', hending, hcourse⟩ := exists_course tools arguments d
  rw [hending]
  cases hcourse with
  | help h => exact .inl (Nat.zero_le 2)
  | refused h => exact .inl (Nat.le_refl 2)
  | unreadable | nullCharacter => exact .inr ⟨_, rfl⟩
  | transformed => exact isStatus_endingOf _

end Stencil.Cli
