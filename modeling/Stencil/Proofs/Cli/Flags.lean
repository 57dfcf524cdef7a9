import Stencil.Proofs.Cli.Run
import Stencil.Proofs.Options.Dump

/-!
What the flags of the command change of the options in a file. Flags change entries of the document
that the options are written to, and this document goes on describing the options; so nothing is
lost on the way, neither a value nor whether it was supplied.
-/
namespace Stencil.Options

inductive OptionField where
  | extensions
  | minify
  | relativePath
  | replacePaths
  deriving DecidableEq, Repr

def TransformOptions.supplies (o : TransformOptions) : OptionField → Bool
  | .extensions => o.extensions.isSome
  | .minify => o.minify.isSome
  | .relativePath => o.relativePath.isSome
  | .replacePaths => o.replacePaths.isSome

end Stencil.Options

namespace Stencil.Cli

open Text Options

namespace Arguments

def names (a : Arguments) : OptionField → Bool
  | .relativePath => a.relativePath
  | .minify => a.noMinify
  | .extensions | .replacePaths => false

/-- Options with what the flags say in their fields. -/
def flagged (a : Arguments) (o : TransformOptions) : TransformOptions :=
  { o with
    relativePath := if a.relativePath then some (some true) else o.relativePath
    minify := if a.noMinify then some (some (.flag false)) else o.minify }

/-- Flags can be applied to options that were read, and do what they say. -/
theorem withFlags_eq (a : Arguments) {o : TransformOptions} (h : o.IsDistinct) :
    a.withFlags o = .ok (a.flagged o) := by
  have hdumped := o.describes_dumpEntries
  have hdistinct : (a.flagged o).IsDistinct := h
  rw [withFlags]
  cases hr : a.relativePath <;> cases hm : a.noMinify <;>
    refine TransformOptions.read_of_describes ?_ hdistinct <;>
    simp only [flagged, hr, hm, if_true, if_false, Bool.false_eq_true]
  · exact hdumped
  · exact hdumped.insertMinify false
  · exact hdumped.insertRelativePath true
  · exact (hdumped.insertRelativePath true).insertMinify false

end Arguments

/-- What flags make of options: the fields they are about say what they say, the others stay. -/
structure Flagged (a : Arguments) (o flagged : TransformOptions) : Prop where
  extensions : flagged.extensions = o.extensions
  replacePaths : flagged.replacePaths = o.replacePaths
  relativePath : flagged.relativePath = if a.relativePath then some (some true) else o.relativePath
  minify : flagged.minify = if a.noMinify then some (some (.flag false)) else o.minify
  supplies : ∀ field, flagged.supplies field = (o.supplies field || a.names field)

theorem flagged_flagged (a : Arguments) (o : TransformOptions) : Flagged a o (a.flagged o) where
  extensions := rfl
  replacePaths := rfl
  relativePath := rfl
  minify := rfl
  supplies field := by
    cases field with
    | extensions | replacePaths =>
      simp [TransformOptions.supplies, Arguments.flagged, Arguments.names]
    | minify =>
      cases hm : a.noMinify <;>
        simp [TransformOptions.supplies, Arguments.flagged, Arguments.names, hm]
    | relativePath =>
      cases hr : a.relativePath <;>
        simp [TransformOptions.supplies, Arguments.flagged, Arguments.names, hr]

/-- What is loaded from a file can be changed by flags. -/
theorem Arguments.withFlags_ofFile (a : Arguments) (bytes : Bytes) :
    (match (TransformOptions.ofFile bytes).mapError LoadError.content with
      | .error e => .error e
      | .ok o => (a.withFlags o).mapError fun issues => .content (.options issues)) =
      ((TransformOptions.ofFile bytes).mapError LoadError.content).map a.flagged := by
  cases h : TransformOptions.ofFile bytes with
  | error e => rfl
  | ok o =>
    simp only [mapError_mk_ok, a.withFlags_eq (TransformOptions.isDistinct_ofFile h), Except.map]

variable {Handle : Type} {m : Type → Type} [Monad m] [LawfulMonad m]

theorem buildOptions_eq (access : Access Handle m) (a : Arguments) :
    buildOptions access a = Except.map a.flagged <$> loadOptions access a.config := by
  rw [buildOptions, loadOptions]
  cases Arguments.given a.config with
  | none => simp [a.withFlags_eq TransformOptions.isDistinct_empty, Except.map, mapError_mk_ok]
  | some path =>
    simp only [bind_assoc, map_bind]
    refine bind_congr fun opening => ?_
    cases opening with
    | error e => simp [Except.map]
    | ok file =>
      simp only [bind_assoc, pure_bind, map_bind, map_pure]
      refine bind_congr fun bytes => ?_
      rw [← a.withFlags_ofFile bytes]
      cases (TransformOptions.ofFile bytes).mapError LoadError.content <;> rfl

/-- The options of a run are those of its file with what the flags say, and nothing else is changed
or supplied; a file is refused exactly if it is refused without flags. In general, options that were
read are read again from the document that they are written to. -/
theorem buildOptions_eq_flagged (access : Access Handle m) (a : Arguments) :
    buildOptions access a = Except.map a.flagged <$> loadOptions access a.config ∧
      (∀ o, Flagged a o (a.flagged o)) ∧
      ∀ v o, TransformOptions.readOptional v = .ok o → TransformOptions.read o.dump = .ok o :=
  ⟨buildOptions_eq access a, flagged_flagged a, fun _ o h =>
    TransformOptions.read_of_describes o.describes_dumpEntries
      (TransformOptions.isDistinct_readOptional h)⟩

/-- A file with aliases, a null, and settings of which one is supplied. -/
theorem buildOptions_eq_flagged_file :
    let a : Arguments := { config := some "o.yaml", relativePath := true }
    let text := "replacePaths:\n  b: c\n  a: d\nextensions:\nminify:\n  lint: true\n"
    let d : Disk :=
      { nodes := [.directory 0 [("o.yaml", 1)], .file (encodeUtf8 text.toList)] }
    let switches : MinifyChoice → List Switch
      | .settings s => s.suppliedSwitches
      | .flag _ => []
    let built := (d.options a).toOption
    LawfulMonad (StateM Disk) ∧
      (built.bind (·.extensions) = some none ∧ built.bind (·.relativePath) = some (some true) ∧
        built.bind (·.replacePaths) = some (some [("b", "c"), ("a", "d")]) ∧
        (built.bind (·.minify)).map (·.map switches) = some (some [.lint])) ∧
      buildOptions Disk.access a = Except.map a.flagged <$> loadOptions Disk.access a.config :=
  ⟨inferInstance, by decide +kernel, (buildOptions_eq_flagged Disk.access _).1⟩

end Stencil.Cli
