import Stencil.Options.Basic
import Stencil.Yaml.Document

/-!
Options in a file. A file that says nothing supplies no options.
-/
namespace Stencil.Options

open Text

inductive FileError where
  | undecodable
  | document (f : Yaml.Failure)
  | options (issues : List Issue)

/-- The options of a document; one that is empty, null, false or zero supplies nothing. -/
def TransformOptions.ofDocument (v : Value) : Checked TransformOptions :=
  if v.isEmpty then .ok {} else TransformOptions.read v

def TransformOptions.ofFile (bytes : Bytes) : Except FileError TransformOptions :=
  match decodeUtf8? bytes with
  | none => .error .undecodable
  | some text =>
    match Yaml.read text with
    | .error f => .error (.document f)
    | .ok v => (ofDocument v).mapError FileError.options

end Stencil.Options
