import Stencil.Markup.Vocabulary

/-!
Documents of markup: text, template tags, and elements with attributes and children.
-/
namespace Stencil.Markup

inductive Piece where
  | text (s : List Char)
  | template (s : List Char)
  deriving DecidableEq, Repr

def Piece.chars : Piece → List Char
  | .text s => s
  | .template s => s

structure Attribute where
  name : Name
  value : List Piece
  deriving DecidableEq, Repr

inductive Closing where
  | written
  | leftOut
  | void
  | slash
  deriving DecidableEq, Repr

inductive Node where
  | text (s : List Char)
  | template (s : List Char)
  | comment (s : List Char)
  | declaration (s : List Char)
  | doctype
  | element (name : Name) (attributes : List Attribute) (closing : Closing) (children : List Node)
  deriving Inhabited

end Stencil.Markup
