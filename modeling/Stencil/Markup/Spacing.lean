import Stencil.Markup.Node.Reader

/-!
White space among the children of elements: where it can be left out and where one space is enough.
Comments and declarations are no neighbours; text and elements see each other across them.
-/
namespace Stencil.Markup

/-- Text with each run of white space as one space. -/
def collapse : List Char → List Char
  | [] => []
  | c :: rest =>
    if isSpace c then
      match collapse rest with
      | ' ' :: others => ' ' :: others
      | others => ' ' :: others
    else c :: collapse rest

/-- Text without the white space at its beginning. -/
def trimStart (s : List Char) : List Char := s.dropWhile isSpace

def trimEnd (s : List Char) : List Char := (s.reverse.dropWhile isSpace).reverse

inductive Before where
  | nothing
  | text
  | element
  deriving DecidableEq, Repr

/-- What becomes of a text. Only white space behind text or a template tag is not left out. -/
def spaceText (sp : Spacing) (before : Before) (s : List Char) : List Char :=
  let s := if sp.trim && before == .nothing then trimStart s else s
  if sp.destroy && before != .text && s.all isSpace then []
  else if sp.collapse then collapse s
  else s

/-- Children with white space left out, except at their end. -/
def spaceFrom (sp : Spacing) (before : Before) : List Node → List Node
  | [] => []
  | .text s :: rest =>
    match spaceText sp before s with
    | [] => spaceFrom sp before rest
    | s => .text s :: spaceFrom sp .text rest
  | .template s :: rest => .template s :: spaceFrom sp .text rest
  | .element name attributes closing children :: rest =>
    .element name attributes closing children :: spaceFrom sp .element rest
  | n :: rest => n :: spaceFrom sp before rest

/-- Children in reverse order, with the last text trimmed if nothing follows it. -/
def trimLast : List Node → List Node
  | .text s :: rest =>
    match trimEnd s with
    | [] => rest
    | s => .text s :: rest
  | .comment s :: rest => .comment s :: trimLast rest
  | .declaration s :: rest => .declaration s :: trimLast rest
  | .doctype :: rest => .doctype :: trimLast rest
  | nodes => nodes

def spaceChildren (sp : Spacing) (children : List Node) : List Node :=
  let children := spaceFrom sp .nothing children
  if sp.trim then (trimLast children.reverse).reverse else children

mutual

/-- A node with white space left out in all of it, unless it stands in preformatted text. -/
def tidy (preformatted : Bool) : Node → Node
  | .element name attributes closing children =>
    let preformatted := preformatted || isOneOf ["pre"] name
    let sp := if preformatted then .verbatim else .of name
    .element name attributes closing (spaceChildren sp (tidyAll preformatted children))
  | n => n

/-- Nodes with white space left out in all of them. -/
def tidyAll (preformatted : Bool) : List Node → List Node
  | [] => []
  | n :: rest => tidy preformatted n :: tidyAll preformatted rest

end

def tidyDocument (nodes : List Node) : List Node :=
  spaceChildren .layout (tidyAll false nodes)

end Stencil.Markup
