import Stencil.Options.Basic
import Stencil.Text.Lower

/-!
The extensions of files that are compiled.
-/
namespace Stencil.Options

open Text

/-- The extensions that are compiled unless something else is said. -/
def defaultExtensions : List String := [".twig", ".html"]

inductive ExtensionError where
  | noItems
  | noText
  deriving DecidableEq, Repr

/-- The items of a value; those of a text are its characters, those of a mapping its keys. -/
def items? : Value → Option (List Value)
  | .list items | .tuple items | .set items => some items
  | .text s => some (s.toList.map fun c => .text (String.singleton c))
  | .bytes b => some (b.map fun x => .integer x.toNat)
  | .map entries => some (entries.map Prod.fst)
  | _ => none

def lowerAll (extensions : List String) : List String := extensions.map lower

def extensionItems (v : Value) : Except ExtensionError (List String) :=
  match items? v with
  | none => .error .noItems
  | some items =>
    items.mapM fun
      | .text s => .ok (lower s)
      | _ => .error .noText

/-- The extensions of an option that was not checked: a list of them, or a record with a field for
them; anything else stands for the default. -/
def resolveExtensions : Value → Except ExtensionError (List String)
  | .list items => extensionItems (.list items)
  | .tuple items => extensionItems (.tuple items)
  | .map entries =>
    match Value.lookup "extensions" entries with
    | none | some .null => .ok (lowerAll defaultExtensions)
    | some v => extensionItems v
  | _ => .ok (lowerAll defaultExtensions)

def TransformOptions.resolveExtensions (o : TransformOptions) : List String :=
  lowerAll ((o.extensions.bind id).getD defaultExtensions)

end Stencil.Options
