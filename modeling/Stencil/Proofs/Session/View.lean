import Stencil.Proofs.Session.Step
import Stencil.Proofs.Transform.Operation

/-!
What is seen of a file when something is done with it: all that is said, but for the details that
the minifier reports, and the file afterwards. A configuration is looked at only where a collected
template is ended, and what a compiler has reported before is not seen at all.
-/
namespace Stencil.Session

open Text Options

def isMinifierDetail (r : LogRecord) : Bool := r.level = .debug && r.source = .minify

def shownRecords (records : List LogRecord) : List LogRecord :=
  records.filter fun r => !isMinifierDetail r

theorem shownRecords_append (xs ys : List LogRecord) :
    shownRecords (xs ++ ys) = shownRecords xs ++ shownRecords ys := List.filter_append ..

theorem shownRecords_warnings (switches : List Switch) :
    shownRecords (switches.map Minify.ineffectiveRecord) = [] := by
  simp [shownRecords, isMinifierDetail, Minify.ineffectiveRecord]

structure View where
  emitted : List Bytes
  error : Option StepError
  records : List LogRecord
  file : Option FileTransform

def Answer.view (a : Answer) (file : Option FileTransform) : View :=
  ⟨a.emitted, a.error, shownRecords a.records, file⟩

end Stencil.Session

namespace Stencil

open Text Options Session

namespace Compiler

/-- What was reported before makes no difference to the result, nor to other records. -/
theorem template_unreported (tools : Toolkit) (reported reported' : List Switch)
    (identifier : Identifier) (source : List Char) (config : BuildConfig) (name : String) :
    let c := template tools reported identifier source config name
    let c' := template tools reported' identifier source config name
    c.result = c'.result ∧ shownRecords c.records = shownRecords c'.records := by
  simp only [template]
  cases config.minify with
  | none => exact ⟨rfl, rfl⟩
  | some o =>
    simp only [Minify.minified]
    cases Minify.run tools.engine o source with
    | error e => exact ⟨rfl, by simp only [shownRecords_warnings]⟩
    | ok markup => exact ⟨rfl, by simp only [shownRecords_append, shownRecords_warnings]⟩

end Compiler

namespace FileTransform

/-- What is seen of a file when an operation is performed on it. -/
def Ran.view (r : Ran (List Switch)) : View := (World.runAnswer r).view (some r.transform)

theorem Ran.transform_of_view {r r' : Ran (List Switch)} (h : r.view = r'.view) :
    r.transform = r'.transform :=
  Option.some.inj (congrArg View.file h)

theorem ended_view (path : String) {x y : Compiled (List Switch)} (hresult : x.result = y.result)
    (hrecords : shownRecords x.records = shownRecords y.records) :
    (ended path x).view = (ended path y).view := by
  simp only [ended, hresult]
  cases y.result with
  | ok fragment => simp [Ran.view, Answer.view, World.runAnswer, hrecords]
  | error failure =>
    cases failure with
    | error e => simp [Ran.view, Answer.view, World.runAnswer, shownRecords_append, hrecords]
    | breakdown b => simp [Ran.view, Answer.view, World.runAnswer, hrecords]

/-- What is seen of an operation depends on the file, and on the configuration only where a
collected template is ended. -/
theorem perform_view (tools : Toolkit) (t : FileTransform) (reported reported' : List Switch)
    (config config' : BuildConfig) (operation : Operation ι)
    (h : t.state = .buffering → operation.Ends → config = config') :
    (t.perform (Compiler.template tools) reported config operation).view =
      (t.perform (Compiler.template tools) reported' config' operation).view := by
  by_cases hend : t.state = .buffering ∧ operation.Ends
  · obtain ⟨hs, he⟩ := hend
    obtain rfl := h hs he
    obtain ⟨hresult, hrecords⟩ := Compiler.template_unreported tools reported reported'
      (Path.identifier t.path config.relativePath config.replacePaths)
      (decodeUtf8 (t.chunks.reverse.flatten ++ operation.given.flatten)) config t.path
    rw [perform_ended hs he, perform_ended hs he]
    exact ended_view t.path hresult hrecords
  · obtain ⟨t', emitted, error, hperform⟩ := perform_otherwise hend
    rw [hperform, hperform]
    rfl

/-- A file is opened the same under every configuration. -/
theorem opened_file (path : String) (o : TransformOptions) (config config' : BuildConfig) :
    (opened path o config).1 = (opened path o config').1 := by
  cases he : Path.isEligible path o.resolveExtensions with
  | true => rw [opened_template _ he, opened_template _ he]
  | false => rw [opened_other _ he, opened_other _ he]

inductive SameAtEnds (compile : Compiler σ) :
    FileTransform → σ → List (Operation ι × BuildConfig) → List (Operation ι × BuildConfig) → Prop
  | nil {t compiler} : SameAtEnds compile t compiler [] []
  | cons {t compiler operation config config' rest rest'}
      (h : t.state = .buffering → operation.Ends → config = config')
      (hrest : SameAtEnds compile (t.perform compile compiler config' operation).transform
        (t.perform compile compiler config' operation).compiler rest rest') :
      SameAtEnds compile t compiler ((operation, config) :: rest) ((operation, config') :: rest')

end FileTransform

end Stencil
