import Stencil.Template.Piece.Lexer
import Stencil.Template.Tag

/-!
The block structure of a template, found by its grammar. Pieces are read left to right with the
list of blocks that are open, innermost first. A template is accepted if every statement is well
formed, every block is ended by one of its own end statements, and nothing is open at the end.
-/
namespace Stencil.Template

open Text

mutual

inductive Item where
  | text (line : Nat) (s : String)
  | output (line : Nat) (symbols : List Symbol)
  | tag (line : Nat) (name : String) (rest : List Symbol)
  | block (line : Nat) (name : String) (rest : List Symbol) (body : List Item)
    (sections : List Section)

inductive Section where
  | mk (line : Nat) (name : String) (rest : List Symbol) (body : List Item)

end

structure Statement where
  line : Nat
  name : String
  rest : List Symbol

structure Division where
  body : List Item
  /-- The sections that are complete, latest first. -/
  complete : List Section
  current : Statement

structure OpenBlock where
  head : Statement
  opening : Opening
  /-- The parts before the block in the list that it belongs to, latest first. -/
  before : List Item
  division : Option Division

/-- What has been read: the parts of the innermost list, latest first, and the open blocks. -/
structure Progress where
  items : List Item
  blocks : List OpenBlock

/-- A part that a required block may hold. A `print` statement without values is none at all. -/
def Item.isBlank : Item → Bool
  | .text _ s => allBlank s.toList
  | .tag _ name rest => name == "print" && rest.isEmpty
  | _ => false

def Statement.section (s : Statement) (body : List Item) : Section := .mk s.line s.name s.rest body

/-- The sections of a block when its last section holds `items`: the body and the others. -/
def OpenBlock.sections (b : OpenBlock) (items : List Item) : List Item × List Section :=
  match b.division with
  | none => (items.reverse, [])
  | some d => (d.body, (d.current.section items.reverse :: d.complete).reverse)

/-- A block that ends: it becomes a part of the list around it. -/
def OpenBlock.close (b : OpenBlock) (items : List Item) : List Item :=
  .block b.head.line b.head.name b.head.rest (b.sections items).1 (b.sections items).2 :: b.before

def OpenBlock.nextSection (b : OpenBlock) (items : List Item) (head : Statement)
    (wanted : List String) : OpenBlock :=
  { b with
    opening := { b.opening with wanted }
    division :=
      match b.division with
      | none => some ⟨items.reverse, [], head⟩
      | some d => some ⟨d.body, d.current.section items.reverse :: d.complete, head⟩ }

def Progress.wanted (p : Progress) : List String :=
  (p.blocks.head?.map fun b => b.opening.wanted).getD []

def Progress.innermost (p : Progress) : Option String := p.blocks.head?.map fun b => b.head.name

def Progress.unknownTag (p : Progress) (name : String) : Cause :=
  .unknownTag name (p.blocks.any fun b => b.opening.wanted.contains name) p.wanted p.innermost

/-- A statement that the innermost block waits for: another section, or the end of the block. -/
def continueBlock (b : OpenBlock) (others : List OpenBlock) (items : List Item)
    (s : Statement) : Reading Progress := do
  Reading.advance
  match b.head.name, s.name with
  | "if", "elif" =>
    let _ ← expressionList false
    openingEnd
    return ⟨[], b.nextSection items s b.opening.wanted :: others⟩
  | "if", "else" =>
    openingEnd
    return ⟨[], b.nextSection items s ["endif"] :: others⟩
  | "for", "else" =>
    openingEnd
    return ⟨[], b.nextSection items s ["endfor"] :: others⟩
  | _, _ =>
    if b.opening.required && !items.all Item.isBlank then Reading.fail .requiredBlockHasContent
    match b.opening.label with
    | some label => discard (Reading.skipName label)
    | none => pure ()
    Reading.expectEnd .tag
    return ⟨b.close items, others⟩

/-- A statement that stands on its own or opens a block. -/
def beginStatement (p : Progress) (s : Statement) (nameLine : Nat) : Reading Progress := do
  match statement s.name nameLine with
  | none => Reading.failAt nameLine (p.unknownTag s.name)
  | some head =>
    Reading.advance
    match ← head with
    | none =>
      Reading.expectEnd .tag
      return ⟨.tag s.line s.name s.rest :: p.items, p.blocks⟩
    | some opening =>
      openingEnd
      return ⟨[], ⟨s, opening, p.items, none⟩ :: p.blocks⟩

/-- A group of symbols between the delimiters of statements. -/
def tagGroup (p : Progress) (line : Nat) : Reading Progress := do
  Reading.checkFront
  match ← Reading.front with
  | some ⟨nameLine, .name name⟩ =>
    let s : Statement := ⟨line, name, (← get).drop 1⟩
    match p.blocks with
    | b :: others =>
      if b.opening.wanted.contains name then continueBlock b others p.items s
      else beginStatement p s nameLine
    | [] => beginStatement p s nameLine
  | _ => Reading.fail .noTagName

/-- A group of symbols between the delimiters of printed values. -/
def outputGroup (p : Progress) (line : Nat) : Reading Progress := do
  Reading.checkFront
  let symbols ← get
  let _ ← expressionList true
  Reading.expectEnd .output
  return ⟨.output line symbols :: p.items, p.blocks⟩

/-- What stands behind the symbols of a group, given what follows the group. -/
def groupEdge (kind : Delimiter) (closing : Option Nat) (lastLine : Nat) (isLast : Bool)
    (failure : Option Failure) : Edge :=
  match closing with
  | some line => .closed kind line (if isLast then failure else none)
  | none =>
    match failure with
    | some failure => .failed failure
    | none => .ended lastLine

def Progress.add (p : Progress) (piece : Piece) (isLast : Bool) (failure : Option Failure) :
    Except Failure Progress :=
  match piece with
  | .text line s => .ok ⟨.text line s :: p.items, p.blocks⟩
  | .group kind line symbols closing =>
    let edge := groupEdge kind closing piece.lastLine isLast failure
    match kind with
    | .tag => (tagGroup p line).run edge symbols
    | .output => (outputGroup p line).run edge symbols

def Progress.addAll (p : Progress) (failure : Option Failure) :
    List Piece → Except Failure Progress
  | [] => .ok p
  | piece :: rest =>
    match p.add piece rest.isEmpty failure with
    | .error e => .error e
    | .ok p => addAll p failure rest

def outline (source : Cut) : Except Failure (List Item) :=
  match (Progress.mk [] []).addAll source.failure source.pieces with
  | .error e => .error e
  | .ok p =>
    match source.failure with
    | some failure => .error failure
    | none =>
      if p.blocks.isEmpty then .ok p.items.reverse
      else
        .error (.fault ⟨.openBlock p.wanted p.innermost,
          (source.pieces.getLast?.map Piece.lastLine).getD 1⟩)

end Stencil.Template
