/-!
Tokens of a document: the marks of its structure, scalars, and the properties of values.
-/
namespace Stencil.Yaml

inductive Directive where
  | version (major : Nat)
  | handle (name stem : List Char)
  /-- Anything else, which has no effect. -/
  | other
  deriving DecidableEq, Repr

inductive Token where
  | directive (d : Directive)
  | documentStart
  | documentEnd
  | blockSequence
  | blockMapping
  | blockEnd
  | flowSequence
  | flowSequenceEnd
  | flowMapping
  | flowMappingEnd
  | item
  | comma
  | key
  | value
  | alias (name : List Char)
  | anchor (name : List Char)
  | tag (handle : Option (List Char)) (suffix : List Char)
  | scalar (text : List Char) (plain : Bool)
  deriving DecidableEq, Repr

end Stencil.Yaml
