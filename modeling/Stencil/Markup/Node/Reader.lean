import Stencil.Markup.Entity
import Stencil.Markup.Node
import Stencil.Text.Search

/-!
Reading a document of markup. Every text is one: a closing tag that fits no open element is read as
an opening one, elements end where their parents end, and template tags are never looked into.
-/
namespace Stencil.Markup

open Text

def isSpace (c : Char) : Bool := [' ', '\t', '\n', '\r', '\x0C'].contains c

def isTagChar (c : Char) : Bool := c.isAlphanum || c == '-' || c == ':' || c == '_' || c == '.'

def isAttributeChar (c : Char) : Bool := !isSpace c && c != '/' && c != '>' && c != '='

inductive Mark where
  | opening
  | closing
  | damaged
  | comment
  | declaration
  | instruction
  | template (stop : List Char)
  deriving DecidableEq, Repr

def markAt (templates : Bool) : List Char → Option Mark
  | '{' :: c :: _ =>
    if !templates then none
    else if c = '{' then some (.template ['}', '}'])
    else if c = '%' then some (.template ['%', '}'])
    else if c = '#' then some (.template ['#', '}'])
    else none
  | '<' :: '/' :: c :: _ => if c.isAlphanum then some .closing else some .damaged
  | '<' :: '!' :: '-' :: '-' :: _ => some .comment
  | '<' :: '!' :: _ => some .declaration
  | '<' :: '?' :: _ => some .instruction
  | '<' :: c :: _ => if c.isAlphanum then some .opening else none
  | _ => none

def textRun (templates : Bool) : List Char → List Char × List Char
  | [] => ([], [])
  | c :: rest =>
    if (markAt templates (c :: rest)).isSome then ([], c :: rest)
    else
      let (text, after) := textRun templates rest
      (c :: text, after)

/-- The text up to and with a pattern behind its first `skipped` characters, if it is there. -/
def through? (skipped : Nat) (pattern s : List Char) : Option (List Char × List Char) :=
  (splitAtFirst pattern (s.drop skipped)).map fun (before, after) =>
    (s.take skipped ++ before ++ pattern, after)

def through (skipped : Nat) (pattern s : List Char) : List Char × List Char :=
  (through? skipped pattern s).getD (s, [])

def consText (c : Char) : List Piece → List Piece
  | .text s :: rest => .text (c :: s) :: rest
  | rest => .text [c] :: rest

/-- The value of an attribute up to where it stops; a template tag in it is read as a whole. -/
def readPieces (templates : Bool) (stops : Char → Bool) : Nat → List Char → List Piece × List Char
  | 0, s => ([], s)
  | _, [] => ([], [])
  | fuel + 1, c :: rest =>
    if stops c then ([], c :: rest)
    else
      let tag :=
        match markAt templates (c :: rest) with
        | some (.template stop) => through? 2 stop (c :: rest)
        | _ => none
      match tag with
      | some (tag, after) =>
        let (more, after) := readPieces templates stops fuel after
        (.template tag :: more, after)
      | none =>
        let (more, after) := readPieces templates stops fuel rest
        (consText c more, after)

def Piece.decoded : Piece → Piece
  | .text s => .text (decodeReferences true s)
  | .template s => .template s

def readValue (templates : Bool) (s : List Char) : List Piece × List Char :=
  let (pieces, rest) :=
    match s.dropWhile isSpace with
    | '"' :: rest =>
      let (pieces, rest) := readPieces templates (· == '"') rest.length rest
      (pieces, rest.drop 1)
    | '\'' :: rest =>
      let (pieces, rest) := readPieces templates (· == '\'') rest.length rest
      (pieces, rest.drop 1)
    | s => readPieces templates (fun c => isSpace c || c == '>') s.length s
  (pieces.map Piece.decoded, rest)

/-- An attribute at the beginning of a text. Its name has one character at least. -/
def readAttribute (templates : Bool) (s : List Char) : Attribute × List Char :=
  let name := s.take 1 ++ (s.drop 1).takeWhile isAttributeChar
  let rest := s.drop name.length
  let name := name.map Char.toLower
  match rest.dropWhile isSpace with
  | '=' :: rest =>
    let (value, rest) := readValue templates rest
    (⟨name, value⟩, rest)
  | _ => (⟨name, []⟩, rest)

/-- Attributes up to the end of a tag, and whether a slash is at its end. Of attributes of one name
the first counts. -/
def readAttributes (templates : Bool) : Nat → List Char → List Attribute × Bool × List Char
  | 0, s => ([], false, s)
  | fuel + 1, s =>
    let filler := s.takeWhile fun c => isSpace c || c == '/'
    match s.drop filler.length with
    | [] => ([], filler.getLast? == some '/', [])
    | '>' :: rest => ([], filler.getLast? == some '/', rest)
    | s =>
      let (first, rest) := readAttribute templates s
      let (others, slash, rest) := readAttributes templates fuel rest
      (first :: others.filter fun a => a.name != first.name, slash, rest)

structure Tag where
  name : Name
  attributes : List Attribute
  slash : Bool

/-- The name of the tag at the beginning of a text, opening or closing. -/
def tagName (s : List Char) : List Char :=
  (match s.drop 1 with
    | '/' :: rest => rest
    | rest => rest).takeWhile isTagChar

def readTag (templates : Bool) (s : List Char) : Tag × List Char :=
  let name := tagName s
  let start := if (s.drop 1).head? == some '/' then 2 else 1
  let rest := s.drop (start + name.length)
  let (attributes, slash, rest) := readAttributes templates (rest.length + 1) rest
  (⟨name.map Char.toLower, attributes, slash⟩, rest)

inductive TagSense where
  | opens
  | closes
  | closesBefore
  | nothing
  deriving DecidableEq, Repr

def openingSense (parent name : Name) : TagSense :=
  if closesBefore parent name then .closesBefore else .opens

def closingSense (grandparent parent name : Name) : TagSense :=
  if parent == name && !name.isEmpty then .closes
  else if grandparent == name && closesLast grandparent parent then .closesBefore
  else if isVoid name then .nothing
  else .opens

/-- Elements whose content is no markup: scripts, style sheets and plain text. -/
def isRaw : Name → Bool := isOneOf ["script", "style"]

def isTextOnly : Name → Bool := isOneOf ["title", "textarea"]

/-- The content of an element up to its closing tag, whatever stands in it, and whether there is a
closing tag. -/
def rawContent (name : Name) : List Char → List Char × Bool × List Char
  | [] => ([], false, [])
  | c :: rest =>
    if c = '<' && rest.head? == some '/' && (tagName (c :: rest)).map Char.toLower == name then
      ([], true, c :: rest)
    else
      let (content, closed, after) := rawContent name rest
      (c :: content, closed, after)

/-- Text with template tags in it. Each round takes a character or more. -/
def textNodes (templates : Bool) : Nat → List Char → List Node
  | 0, _ => []
  | _, [] => []
  | fuel + 1, c :: rest =>
    match markAt templates (c :: rest) with
    | some (.template stop) =>
      let (tag, after) := through 2 stop (c :: rest)
      .template tag :: textNodes templates fuel after
    | _ =>
      match textNodes templates fuel rest with
      | .text s :: others => .text (c :: s) :: others
      | others => .text [c] :: others

def Node.decoded : Node → Node
  | .text s => .text (decodeReferences false s)
  | n => n

/-- Text before other children; two texts that meet become one. -/
def consNode (s : List Char) (children : List Node) : List Node :=
  match s, children with
  | [], _ => children
  | _, .text t :: others => .text (s ++ t) :: others
  | _, _ => .text s :: children

/-- The children of an element, whether its closing tag comes next, and what follows. -/
structure Content where
  children : List Node
  closed : Bool
  rest : List Char

def Content.cons (n : Node) (c : Content) : Content := { c with children := n :: c.children }

/-- A declaration: the type of the document, or anything else. -/
def declarationOf (s : List Char) : Node :=
  let word := ((s.drop 2).take 7).map Char.toLower
  if word = "doctype".toList then .doctype else .declaration s

mutual

/-- The children of an element. Each round takes a character or more, or ends the element. -/
def readContent (templates foreign : Bool) (grandparent parent : Name) :
    Nat → List Char → Content
  | 0, s => ⟨[], false, s⟩
  | fuel + 1, s =>
    let (text, s) := textRun templates s
    let goOn := readContent templates foreign grandparent parent fuel
    let content : Content :=
      match markAt templates s with
      | none => ⟨[], false, s⟩
      | some (.template stop) =>
        let (tag, rest) := through 2 stop s
        (goOn rest).cons (.template tag)
      | some .comment =>
        let (comment, rest) := through 4 ['-', '-', '>'] s
        (goOn rest).cons (.comment comment)
      | some .declaration =>
        let (declaration, rest) := through 2 ['>'] s
        (goOn rest).cons (declarationOf declaration)
      | some .instruction =>
        let (instruction, rest) := through 2 ['?', '>'] s
        (goOn rest).cons (.declaration instruction)
      | some .damaged => goOn (through 2 ['>'] s).2
      | some mark =>
        let name := (tagName s).map Char.toLower
        let sense :=
          if mark = .opening then openingSense parent name
          else closingSense grandparent parent name
        match sense with
        | .closes => ⟨[], true, s⟩
        | .closesBefore => ⟨[], false, s⟩
        | .nothing => goOn (readTag templates s).2
        | .opens =>
          let (element, rest) := readElement templates foreign parent fuel s
          (goOn rest).cons element
    { content with children := consNode (decodeReferences false text) content.children }

def readElement (templates foreign : Bool) (parent : Name) :
    Nat → List Char → Node × List Char
  | 0, s => (.text s, [])
  | fuel + 1, s =>
    let (tag, rest) := readTag templates s
    if tag.slash && foreign then (.element tag.name tag.attributes .slash [], rest)
    else if !foreign && isVoid tag.name then (.element tag.name tag.attributes .void [], rest)
    else
      let content : Content :=
        if isRaw tag.name || isTextOnly tag.name then
          let (inner, closed, rest) := rawContent tag.name rest
          if isRaw tag.name then ⟨if inner.isEmpty then [] else [.template inner], closed, rest⟩
          else ⟨(textNodes templates inner.length inner).map Node.decoded, closed, rest⟩
        else
          readContent templates (foreign || isOneOf ["svg"] tag.name) parent tag.name fuel rest
      let closing := if content.closed then Closing.written else .leftOut
      let rest := if content.closed then (readTag templates content.rest).2 else content.rest
      (.element tag.name tag.attributes closing content.children, rest)

end

def readDocument (templates : Bool) (s : List Char) : List Node :=
  (readContent templates false [] [] (2 * s.length + 2) s).children

end Stencil.Markup
