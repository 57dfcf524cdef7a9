import Stencil.Proofs.Cli.Effect

/-!
What becomes of the file that a run reads. It stays as it was, with one exception: a run that puts
its output where its input is empties the file before it reads it, and so makes of it what it makes
of nothing, whatever the file held.
-/
namespace Stencil.Cli

open Text Options

variable {tools : Toolkit} {arguments : List String} {d d' opened : Disk} {a : Arguments}
  {o : TransformOptions} {n : Nat} {original : Bytes}

namespace Disk

structure Holds (d : Disk) (path : String) (n : Nat) (content : Bytes) : Prop where
  file : isStream path = false
  leads : d.Leads path n
  found : d.file? n = some content

/-- What goes to the standard output touches no names. -/
theorem grows_output (d : Disk) (output : Bytes) (n : Nat) : d.Grows { d with output } n where
  root := rfl
  working := rfl
  refused := rfl
  enter _ _ := .inl rfl

variable {input output : String}

theorem holds_output (h : d.Holds input n original) (output : Bytes) :
    { d with output }.Holds input n original :=
  ⟨h.file, (d.grows_output output n).leads h.leads, h.found⟩

/-- The input that is opened is the file that its path leads to. -/
theorem source_eq (h : d.Holds input n original) {source : Option Nat}
    (hi : d.openInput input = .ok source) : source = some n := by
  rcases openInput_eq_ok.mp hi with ⟨hin, -⟩ | ⟨-, -, m, hm, rfl⟩
  · rw [h.file] at hin
    cases hin
  · have hleads := (openFile_eq_ok.mp hm).1
    cases h.leads.symm.trans hleads
    rfl

/-- An output elsewhere leaves a file as it is. -/
theorem holds_addOutput (h : d.Holds input n original) {target : Option Nat}
    (ho : d.openOutput output = .ok (target, opened)) (hne : target ≠ some n) (bytes : Bytes) :
    (opened.addOutput bytes target).Holds input n original := by
  rcases openOutput_eq_ok.mp ho with ⟨-, rfl, rfl⟩ | ⟨-, -, m, hm, rfl⟩
  · exact holds_output h _
  · obtain ⟨hwrote, -⟩ := wrote_addToFile hm bytes
    have hother : n ≠ m := fun heq => hne (congrArg some heq.symm)
    exact ⟨h.file, hwrote.kept input n h.leads, (hwrote.others n hother).trans h.found⟩

/-- Emptied, a file holds what is added to it only. -/
theorem overwritten (h : d.Holds input n original)
    (ho : d.openOutput output = .ok (some n, opened)) (bytes : Bytes) :
    d.SameFile input output ∧ opened.inputBytes (some n) = [] ∧
      (opened.addOutput bytes (some n)).Holds input n bytes := by
  rcases openOutput_eq_ok.mp ho with ⟨-, hn, -⟩ | ⟨hout, -, m, hm, hn⟩
  · cases hn
  · cases hn
    obtain ⟨hemptied, -, hplace⟩ := emptyFile_spec hm
    obtain ⟨hwrote, -⟩ := wrote_addToFile hm bytes
    have hleads : d.Leads output n := hplace.resolve_right (by simp [h.found])
    refine ⟨⟨h.file, hout, n, original, h.leads, hleads, h.found⟩, ?_, ?_⟩
    · rw [inputBytes, Disk.content, hemptied.found, Option.getD_some]
    · exact ⟨h.file, hwrote.kept input n h.leads, hwrote.found⟩

end Disk

/-- A run whose arguments and options are in order, and which may read its input and write its
output, puts its output where its input is. -/
structure OntoItself (arguments : List String) (d : Disk) (a : Arguments) (o : TransformOptions)
    (n : Nat) (original : Bytes) : Prop where
  arguments_eq : readArguments arguments = .ok (.run a)
  path : isStream a.templatePath = false
  options_eq : d.options a = .ok o
  holds : d.Holds a.input n original
  input : d.openInput a.input = .ok (some n)
  output : ∃ opened, d.openOutput a.output = .ok (some n, opened)

/-- It makes of its file what it makes of nothing. -/
theorem course_onto_itself {ending : Ending} (hcourse : Course tools arguments d ending d')
    (h : OntoItself arguments d a o n original) :
    ending = endingOf (made tools a.templatePath o []).error ∧
      d'.Holds a.input n (made tools a.templatePath o []).emitted.flatten := by
  obtain ⟨harguments, hpath, ho, hholds, hi, opened, hopened⟩ := h
  cases hcourse with
  | help hhelp => cases harguments.symm.trans hhelp
  | refused hrefused =>
    rcases hrefused with ⟨e, he⟩ | ⟨b, hb, hbad⟩ | ⟨b, hb, e, he⟩ | ⟨b, hb, f, hf⟩ | ⟨b, hb, f, hf⟩
    · cases harguments.symm.trans he
    all_goals cases harguments.symm.trans hb
    · cases hpath.symm.trans hbad
    · cases ho.symm.trans he
    · cases hi.symm.trans hf
    · cases hopened.symm.trans hf
  | unreadable b hb _ f hf =>
    cases harguments.symm.trans hb
    cases ho.symm.trans hf
  | nullCharacter b hb =>
    cases harguments.symm.trans hb.arguments_eq
    rcases hb.null with hnull | ⟨-, hnull⟩
    · cases hi.symm.trans hnull
    · cases hopened.symm.trans hnull
  | transformed b hb _ p hp source hsource target emptied hemptied =>
    cases harguments.symm.trans hb
    cases ho.symm.trans hp
    cases hi.symm.trans hsource
    cases hopened.symm.trans hemptied
    rw [(Disk.overwritten hholds hopened []).2.1]
    exact ⟨rfl, (Disk.overwritten hholds hopened _).2.2⟩

/-- Any other run leaves the file of its input as it was. -/
theorem holds_of_course {ending : Ending} (hcourse : Course tools arguments d ending d')
    (h : readArguments arguments = .ok (.run a)) (hholds : d.Holds a.input n original)
    (hother : ∀ o, ¬OntoItself arguments d a o n original) : d'.Holds a.input n original := by
  cases hcourse with
  | help => exact Disk.holds_output hholds _
  | refused | unreadable | nullCharacter => exact hholds
  | transformed b hb hpath o ho source hi target opened hopened =>
    cases h.symm.trans hb
    cases Disk.source_eq hholds hi
    refine Disk.holds_addOutput hholds hopened ?_ _
    rintro rfl
    exact hother o ⟨h, hpath, ho, hholds, hi, opened, hopened⟩

/-- A file that is not a template is emptied by a run onto itself, which ends well. -/
theorem run_onto_itself_other (h : OntoItself arguments d a o n original)
    (he : Path.isEligible a.templatePath o.resolveExtensions = false) :
    let ran := Id.run ((run Disk.access tools arguments).run d)
    ran.1.ending = .status 0 ∧ ran.2.Holds a.input n [] := by
  have hran := course_onto_itself (course_run tools arguments d) h
  rw [made_other tools he] at hran
  exact hran

/-- The file that a run reads survives: it is as it was, or it is the output as well, the run ended
with status 0, and the file holds what a transform makes of its content. -/
def Survives (tools : Toolkit) (arguments : List String) (d : Disk) : Prop :=
  let ran := Id.run ((run Disk.access tools arguments).run d)
  ∀ a n original, readArguments arguments = .ok (.run a) → d.Holds a.input n original →
    ran.2.Holds a.input n original ∨
      ran.1.ending = .status 0 ∧ d.SameFile a.input a.output ∧ ∃ o, d.options a = .ok o ∧
        ran.2.Holds a.input n (made tools a.templatePath o original).emitted.flatten

theorem endingOf_eq_zero_iff (error : Option TransformError) :
    endingOf error = .status 0 ↔ error = none := by
  unfold endingOf
  split <;> simp

theorem Disk.Holds.unique {path : String} {bytes : Bytes} (h : d.Holds path n original)
    (h' : d.Holds path n bytes) : original = bytes :=
  Option.some.inj (h.found.symm.trans h'.found)

/-- The file survives every run, except one onto itself, which it survives only if a transform makes
of it what it makes of nothing, or if it held just that before. -/
theorem survives_iff (tools : Toolkit) (arguments : List String) (d : Disk) :
    Survives tools arguments d ↔
      ∀ a o n original, OntoItself arguments d a o n original →
        let ofNothing := made tools a.templatePath o []
        ofNothing.emitted.flatten = original ∨
          ofNothing.error = none ∧
            ofNothing.emitted.flatten =
              (made tools a.templatePath o original).emitted.flatten := by
  have hcourse := course_run tools arguments d
  rw [Survives]
  constructor
  · intro hsurvives a o n original h ofNothing
    obtain ⟨hending, hfound⟩ := course_onto_itself hcourse h
    rcases hsurvives a n original h.arguments_eq h.holds with hkept | ⟨hzero, -, p, hp, hmade⟩
    · exact .inl (hfound.unique hkept)
    · cases h.options_eq.symm.trans hp
      rw [hending, endingOf_eq_zero_iff] at hzero
      exact .inr ⟨hzero, hfound.unique hmade⟩
  · intro hsame a n original h hholds
    by_cases hitself : ∃ o, OntoItself arguments d a o n original
    · obtain ⟨o, ho⟩ := hitself
      obtain ⟨hending, hfound⟩ := course_onto_itself hcourse ho
      obtain ⟨opened, hopened⟩ := ho.output
      have hfile := (Disk.overwritten hholds hopened []).1
      rcases hsame a o n original ho with hkept | ⟨hnone, hmade⟩
      · exact .inl (hkept ▸ hfound)
      · exact .inr ⟨hending.trans ((endingOf_eq_zero_iff _).mpr hnone), hfile, o, ho.options_eq,
          hmade ▸ hfound⟩
    · exact .inl (holds_of_course hcourse h hholds (not_exists.mp hitself))

/-- A style sheet is lost, and the run that loses it ends with status 0. -/
theorem not_survives_styles :
    let tools : Toolkit := ⟨fun _ source => .ok source, fun _ => none⟩
    let arguments := ["styles.css", "-o", "styles.css"]
    let d : Disk := { nodes := [.directory 0 [("styles.css", 1)], .file [0x61]] }
    let ran := Id.run ((run Disk.access tools arguments).run d)
    ran.1.ending = .status 0 ∧ ran.2.file? 1 = some [] ∧ ¬Survives tools arguments d := by
  intro tools arguments d ran
  have hran : ran.1.ending = .status 0 ∧ ran.2.file? 1 = some [] := by decide +kernel
  refine ⟨hran.1, hran.2, fun hsurvives => ?_⟩
  have hholds : d.Holds "styles.css" 1 [0x61] := ⟨rfl, rfl, rfl⟩
  rcases hsurvives { input := "styles.css", output := "styles.css" } _ _ rfl hholds with
    hkept | ⟨-, -, o, ho, hmade⟩
  · exact absurd (hran.2.symm.trans hkept.found) (by decide)
  · have hoptions : d.options { input := "styles.css", output := "styles.css" } = .ok {} := rfl
    cases hoptions.symm.trans ho
    rw [made_other tools (by decide)] at hmade
    exact absurd (hran.2.symm.trans hmade.found) (by decide)

end Stencil.Cli
