import Stencil.Proofs.Cli.Run

/-!
What a run of the command leaves on the disk, by the way it ends. As long as input and output are
different files, the output receives what a transform of the input passes on, and nothing else
changes; a run that is refused changes nothing at all.
-/
namespace Stencil.Cli

open Text Options

namespace Disk

variable {d d' : Disk} {path input output : String}

/-- The input of a path is these bytes. -/
def Gives (d : Disk) (path : String) (bytes : Bytes) : Prop :=
  if isStream path then d.input = bytes
  else ∃ n, d.Leads path n ∧ d.file? n = some bytes

/-- The output of a path received these bytes, and nothing else changed. A stream keeps what it
received before; a file does not, and it may be a new one. -/
def Received (d : Disk) (path : String) (bytes : Bytes) (d' : Disk) : Prop :=
  if isStream path then d' = { d with output := d.output ++ bytes }
  else ∃ n, (d.Leads path n ∨ d.file? n = none ∧ ∀ m, ¬d.Leads path m) ∧ d'.Leads path n ∧
    d.Wrote n bytes d'

/-- Two paths lead to the same file; a standard stream is no file. -/
def SameFile (d : Disk) (input output : String) : Prop :=
  isStream input = false ∧ isStream output = false ∧
    ∃ n content, d.Leads input n ∧ d.Leads output n ∧ d.file? n = some content

theorem received_addOutput {target : Option Nat} (h : d.openOutput path = .ok (target, d'))
    (bytes : Bytes) : d.Received path bytes (d'.addOutput bytes target) := by
  rw [Received]
  rcases openOutput_eq_ok.mp h with ⟨hstream, rfl, rfl⟩ | ⟨hstream, -, n, hn, rfl⟩
  · rw [if_pos hstream, addOutput]
  · have hfile : ¬isStream path = true := by simp [hstream]
    obtain ⟨-, -, hn'⟩ := emptyFile_spec hn
    obtain ⟨hwrote, hleads⟩ := wrote_addToFile hn bytes
    rw [if_neg hfile]
    exact ⟨n, hn', hleads, hwrote⟩

/-- The output of a run can be opened without touching its input. -/
theorem gives_inputBytes {source target : Option Nat} (hi : d.openInput input = .ok source)
    (ho : d.openOutput output = .ok (target, d')) (hs : ¬d.SameFile input output) :
    d.Gives input (d'.inputBytes source) := by
  rw [Gives]
  rcases openInput_eq_ok.mp hi with ⟨hin, rfl⟩ | ⟨hin, -, n, hn, rfl⟩
  · rw [if_pos hin, inputBytes]
    rcases openOutput_eq_ok.mp ho with ⟨-, -, rfl⟩ | ⟨-, -, m, hm, -⟩
    · rfl
    · exact (emptyFile_spec hm).1.input.symm
  · obtain ⟨hleads, -, content, hfile⟩ := openFile_eq_ok.mp hn
    have hkept : d'.file? n = some content := by
      rcases openOutput_eq_ok.mp ho with ⟨-, -, rfl⟩ | ⟨hout, -, m, hm, -⟩
      · exact hfile
      · obtain ⟨hwrote, -, hm'⟩ := emptyFile_spec hm
        have hne : n ≠ m := by
          rintro rfl
          rcases hm' with hsame | ⟨hnew, -⟩
          · exact hs ⟨hin, hout, n, content, hleads, hsame, hfile⟩
          · rw [hfile] at hnew
            cases hnew
        rw [hwrote.others n hne, hfile]
    rw [if_neg (by simp [hin]), inputBytes, Disk.content, hkept]
    exact ⟨n, hleads, hfile⟩

end Disk

/-- An error of a transform comes from its compilation, and nothing is passed on with it. -/
theorem made_error {tools : Toolkit} {path : String} {o : TransformOptions} {data : Bytes}
    {e : TransformError} (h : (made tools path o data).error = some e) :
    (∃ failure, e = .compilation failure) ∧ (made tools path o data).emitted = [] := by
  cases he : Path.isEligible path o.resolveExtensions with
  | true =>
    rw [made, run_opened_template tools he, FileTransform.ended] at h ⊢
    split at h <;> cases h <;> exact ⟨⟨_, rfl⟩, rfl⟩
  | false =>
    rw [made_other tools he] at h
    cases h

/-- A run got as far as transforming some bytes, as its arguments and options ask for. -/
structure Transforms (arguments : List String) (d : Disk) (a : Arguments) (o : TransformOptions)
    (bytes : Bytes) : Prop where
  arguments_eq : readArguments arguments = .ok (.run a)
  path : isStream a.templatePath = false
  options_eq : d.options a = .ok o
  input : d.Gives a.input bytes

/-- What a run leaves on a disk, by the way it ends. Status 0 is that of a transform without an
error, and of a call for help. -/
def Effect (tools : Toolkit) (arguments : List String) (d d' : Disk) : Ending → Prop
  | .status 0 =>
    (readArguments arguments = .ok .help ∧
        d' = { d with output := d.output ++ encodeUtf8 helpText.toList }) ∨
      ∃ a o bytes, Transforms arguments d a o bytes ∧
        (made tools a.templatePath o bytes).error = none ∧
        d.Received a.output (made tools a.templatePath o bytes).emitted.flatten d'
  | .status 1 =>
    ∃ a o bytes e, Transforms arguments d a o bytes ∧
      (made tools a.templatePath o bytes).error = some (.compilation (.error e)) ∧
      d.Received a.output [] d'
  | .status 2 => Refused arguments d ∧ d' = d
  | .status _ => False
  | .crash (.document f) =>
    (∃ a, readArguments arguments = .ok (.run a) ∧
      d.options a = .error (.content (.document f))) ∧ d' = d
  | .crash .nullCharacter => (∃ a, MeetsNull arguments d a) ∧ d' = d
  | .crash (.breakdown b) =>
    ∃ a o bytes, Transforms arguments d a o bytes ∧
      (made tools a.templatePath o bytes).error = some (.compilation (.breakdown b)) ∧
      d.Received a.output [] d'

theorem effect_transformed {tools : Toolkit} {arguments : List String} {d d' : Disk}
    {a : Arguments} {o : TransformOptions} {bytes : Bytes}
    (h : Transforms arguments d a o bytes) {r : FileTransform.Ran (List Switch)}
    (hr : made tools a.templatePath o bytes = r)
    (hout : d.Received a.output r.emitted.flatten d') :
    Effect tools arguments d d' (endingOf r.error) := by
  cases he : r.error with
  | none => exact .inr ⟨a, o, bytes, h, hr ▸ he, hr ▸ hout⟩
  | some error =>
    obtain ⟨⟨failure, rfl⟩, hnone⟩ := made_error (hr ▸ he)
    rw [← hr, hnone] at hout
    cases failure with
    | error e => exact ⟨a, o, bytes, e, h, hr ▸ he, hout⟩
    | breakdown b => exact ⟨a, o, bytes, h, hr ▸ he, hout⟩

theorem effect_of_course {tools : Toolkit} {arguments : List String} {d d' : Disk}
    {ending : Ending} (h : Course tools arguments d ending d')
    (hd : ∀ a, readArguments arguments = .ok (.run a) → ¬d.SameFile a.input a.output) :
    Effect tools arguments d d' ending := by
  cases h with
  | help h => exact .inl ⟨h, rfl⟩
  | refused h => exact ⟨h, rfl⟩
  | unreadable a h hpath f hf => exact ⟨⟨a, h, hf⟩, rfl⟩
  | nullCharacter a h => exact ⟨⟨a, h⟩, rfl⟩
  | transformed a h hpath o ho source hi target opened hopened =>
    have hreached : Transforms arguments d a o (opened.inputBytes source) :=
      ⟨h, hpath, ho, Disk.gives_inputBytes hi hopened (hd a h)⟩
    generalize hmade : made tools a.templatePath o (opened.inputBytes source) = r
    exact effect_transformed hreached hmade (Disk.received_addOutput hopened r.emitted.flatten)

/-- As long as its input and its output are different files, every run has the effect that its
ending tells. The path of a template is what `--path` gives, if that is not empty, and the input
otherwise; a call for help makes nothing of any input. -/
theorem effect_run (tools : Toolkit) (arguments : List String) (d : Disk)
    (hd : ∀ a, readArguments arguments = .ok (.run a) → ¬d.SameFile a.input a.output) :
    let ran := Id.run ((run Disk.access tools arguments).run d)
    Effect tools arguments d ran.2 ran.1.ending :=
  effect_of_course (course_run tools arguments d) hd

/-- A template that is read through a link goes to a new file outside the working directory. -/
theorem effect_run_template :
    let tools : Toolkit := ⟨fun _ source => .ok source, fun _ => none⟩
    let arguments := ["./a.twig", "-o", "/tmp/out.js", "--path", "a.twig", "--no-minify"]
    let d : Disk :=
      { nodes :=
          [.directory 0 [("work", 1), ("tmp", 2)], .directory 0 [("a.twig", 3)],
            .directory 0 [("b.twig", 4)], .link "../tmp/b.twig", .file [0x61]]
        working := 1 }
    let text := "\nmodule.exports = Twig.twig(\x7b id: \"a.twig\", data:[\x7b\"type\":\"raw\"," ++
      "\"value\":\"a\"\x7d], precompiled: true, allowInlineIncludes: true \x7d);"
    let ran := Id.run ((run Disk.access tools arguments).run d)
    (∀ a, readArguments arguments = .ok (.run a) → ¬d.SameFile a.input a.output) ∧
      ran.1.ending = .status 0 ∧ (ran.2.openFile "../tmp/out.js").toOption = some 5 ∧
      ran.2.content 5 = encodeUtf8 text.toList ∧ Effect tools arguments d ran.2 (.status 0) := by
  intro tools arguments d text ran
  have harguments : readArguments arguments = .ok (.run
      { input := "./a.twig", output := "/tmp/out.js", path := some "a.twig",
        noMinify := true }) := rfl
  have hfree : d.place false "/tmp/out.js" = .ok (.free 2 "out.js") := rfl
  have hd : ∀ a, readArguments arguments = .ok (.run a) → ¬d.SameFile a.input a.output := by
    rintro a ha ⟨-, -, n, content, -, hleads, -⟩
    cases harguments.symm.trans ha
    cases hfree.symm.trans hleads
  have hran : ran.1.ending = .status 0 ∧ (ran.2.openFile "../tmp/out.js").toOption = some 5 ∧
      ran.2.content 5 = encodeUtf8 text.toList := by
    decide +kernel
  have heffect : Effect tools arguments d ran.2 ran.1.ending := effect_run tools arguments d hd
  rw [hran.1] at heffect
  exact ⟨hd, hran.1, hran.2.1, hran.2.2, heffect⟩

theorem run_help (tools : Toolkit) {arguments : List String} (d : Disk)
    (h : readArguments arguments = .ok .help) :
    Id.run ((run Disk.access tools arguments).run d) =
      (⟨.status 0, []⟩, { d with output := d.output ++ encodeUtf8 helpText.toList }) := by
  rw [run, h]
  rfl

theorem encodeUtf8_helpText_ne_nil : encodeUtf8 helpText.toList ≠ [] := by
  rw [helpText, String.toList_intercalate, List.map_cons, List.map_cons,
    List.intercalate_cons_cons, encodeUtf8, List.flatMap_append, List.flatMap_append]
  have hline : List.flatMap encodeChar "\n".toList ≠ [] := by decide
  exact List.append_ne_nil_of_left_ne_nil (List.append_ne_nil_of_right_ne_nil _ hline) _

/-- An empty `--path` does not count as given, and a call for help is no transform: a template is
compiled that would pass through under the empty path, and help is written though no input is
read. -/
theorem not_made_for_flag :
    let tools : Toolkit := ⟨fun _ source => .ok source, fun _ => none⟩
    let arguments := ["x.twig", "--path", "", "--no-minify"]
    let a : Arguments := { input := "x.twig", path := some "", noMinify := true }
    let d : Disk := { nodes := [.directory 0 [("x.twig", 1)], .file [0x78]] }
    let ran := Id.run ((run Disk.access tools arguments).run d)
    let helped := Id.run ((run Disk.access tools ["-h"]).run d)
    (readArguments arguments = .ok (.run a) ∧ ran.1.ending = .status 0 ∧
      ∃ o, d.options a = .ok o ∧
        ran.2.output ≠ (made tools (a.path.getD a.input) o [0x78]).emitted.flatten) ∧
    readArguments ["-h"] = .ok .help ∧ helped.1.ending = .status 0 ∧
      helped.2.output = encodeUtf8 helpText.toList ∧ helped.2.output ≠ d.input := by
  intro tools arguments a d ran helped
  have hran : ran.1.ending = .status 0 ∧ ran.2.output ≠ [0x78] := by decide +kernel
  have hoptions : d.options a = .ok { minify := some (some (.flag false)) } := rfl
  have hmade : (made tools "" { minify := some (some (.flag false)) } [0x78]).emitted.flatten =
      [0x78] := by
    rw [made_other tools (by decide)]
    rfl
  have hhelp : readArguments ["-h"] = .ok .help := rfl
  have hhelped : helped.2.output = encodeUtf8 helpText.toList := by
    rw [show helped = _ from run_help tools d hhelp]
    exact List.nil_append _
  refine ⟨⟨rfl, hran.1, _, hoptions, fun h => hran.2 (h.trans hmade)⟩, hhelp, ?_, hhelped, ?_⟩
  · rw [show helped = _ from run_help tools d hhelp]
  · rw [hhelped]
    exact encodeUtf8_helpText_ne_nil

end Stencil.Cli
