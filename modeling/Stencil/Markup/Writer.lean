import Stencil.Markup.Spacing
import Stencil.Minify

/-!
Writing a document of markup with no more than it needs: attributes in order and with as few
quotation marks as possible, no closing tags where they are implied.
-/
namespace Stencil.Markup

open Stencil

inductive Following where
  | nothing
  | text
  | element (name : Name)
  deriving DecidableEq, Repr

/-- What some nodes begin with; comments and declarations do not count. -/
def followingOf : List Node → Following
  | [] => .nothing
  | .text _ :: _ => .text
  | .template _ :: _ => .text
  | .element name _ _ _ :: _ => .element name
  | _ :: rest => followingOf rest

def closingImplied (parent name : Name) (next : Following) : Bool :=
  closesAnyway name ||
    match next with
    | .nothing => closesLast parent name
    | .text => false
    | .element next => closesBefore name next

def atFirstText (f : List Char → List Char) : List Piece → List Piece
  | .text s :: rest => .text (f s) :: rest
  | pieces => pieces

def Piece.mapText (f : List Char → List Char) : Piece → Piece
  | .text s => .text (f s)
  | .template s => .template s

def tidyWords (pieces : List Piece) : List Piece :=
  let pieces := atFirstText trimStart (pieces.map (Piece.mapText collapse))
  (atFirstText trimEnd pieces.reverse).reverse

def valueChars (pieces : List Piece) : List Char := pieces.flatMap Piece.chars

/-- A character because of which a value needs quotation marks. -/
def needsQuotes (c : Char) : Bool :=
  isSpace c || ['"', '\'', '=', '<', '>', '\x60'].contains c

/-- A part of a value between quotation marks. -/
def quotedPiece (quote : Char) (mark : List Char) : Piece → List Char
  | .text s => (encodeAmpersands true s).flatMap fun c => if c = quote then mark else [c]
  | .template s => s

/-- A value, in the quotation marks that have to be written in fewer other ways in it. -/
def writeValue (pieces : List Piece) : List Char :=
  let chars := valueChars pieces
  if !chars.any needsQuotes then pieces.flatMap (quotedPiece '"' [])
  else if chars.count '"' ≤ chars.count '\'' then
    '"' :: pieces.flatMap (quotedPiece '"' "&#34;".toList) ++ ['"']
  else '\'' :: pieces.flatMap (quotedPiece '\'' "&#39;".toList) ++ ['\'']

/-- An attribute with its value in its simplest form; none if it says nothing. -/
def simplified (element : Name) (a : Attribute) : Option Attribute :=
  let value := if holdsWords a.name then tidyWords a.value else a.value
  let chars := valueChars value
  if (chars.isEmpty && isIdleWhenEmpty a.name) || isInitial element a.name chars then none
  else if isBoolean a.name then some ⟨a.name, []⟩
  else some ⟨a.name, value⟩

def writeAttribute (a : Attribute) : List Char :=
  ' ' :: a.name ++ (if (valueChars a.value).isEmpty then [] else '=' :: writeValue a.value)

def attributeLe (a b : Attribute) : Bool := String.ofList a.name ≤ String.ofList b.name

def sortedAttributes (element : Name) (attributes : List Attribute) : List Attribute :=
  (attributes.filterMap (simplified element)).mergeSort attributeLe

def endsBare (a : Attribute) : Bool :=
  let chars := valueChars a.value
  chars.isEmpty || !chars.any needsQuotes

/-- The end of an opening tag; a slash is kept apart from a bare value. -/
def openingEnd (closing : Closing) (attributes : List Attribute) : List Char :=
  if closing = .slash then
    (if attributes.getLast?.any endsBare then [' '] else []) ++ ['/', '>']
  else ['>']

/-- The opening tag of an element, unless it can be left out. -/
def writeOpening (a : MarkupArguments) (name : Name) (attributes : List Attribute)
    (closing : Closing) : List Char :=
  if !a.keepHtmlAndHeadOpeningTags && attributes.isEmpty && opensAnyway name then []
  else
    let sorted := sortedAttributes name attributes
    '<' :: name ++ sorted.flatMap writeAttribute ++ openingEnd closing sorted

/-- The closing tag of an element, unless it was left out or is implied. -/
def writeClosing (a : MarkupArguments) (parent name : Name) (closing : Closing)
    (next : Following) : List Char :=
  if closing = .written && (a.keepClosingTags || !closingImplied parent name next) then
    ['<', '/'] ++ name ++ ['>']
  else []

mutual

def writeNode (a : MarkupArguments) (parent : Name) (next : Following) : Node → List Char
  | .text s => encodeText s
  | .template s => s
  | .comment s => if a.keepComments then s else []
  | .declaration s => s
  | .doctype => "<!doctype html>".toList
  | .element name attributes closing children =>
    writeOpening a name attributes closing ++ writeNodes a name children ++
      writeClosing a parent name closing next

def writeNodes (a : MarkupArguments) (parent : Name) : List Node → List Char
  | [] => []
  | n :: rest => writeNode a parent (followingOf rest) n ++ writeNodes a parent rest

end

/-- Makes markup smaller. Nothing is refused. -/
def shrink : MarkupEngine := fun a source =>
  .ok (writeNodes a [] (tidyDocument (readDocument a.preserveBraceTemplates source)))

end Stencil.Markup
