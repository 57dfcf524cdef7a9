import Stencil.Tree.Node

/-!
Folding a stream of tokens into a tree. The stream is first cut into text, groups for printed values
and groups for statements, and each of them is read as an event; the name of a statement is the text
of the first token of its group. A statement then opens a block, goes on with the next branch of the
innermost block, ends that block, or is a leaf. Streams need not be well formed: a group may be cut
off by the end, ends without a block are leaves, and blocks may stay open.
-/
namespace Stencil.Tree

open Text

inductive Group where
  | text (value : Literal)
  | output (stack : List Token)
  | statement (line : Int) (stack : List Token)
  deriving DecidableEq, Repr

inductive OpenGroup where
  | output (stack : List Token)
  | statement (line : Int) (stack : List Token)

def OpenGroup.group : OpenGroup → Group
  | .output stack => .output stack.reverse
  | .statement line stack => .statement line stack.reverse

def OpenGroup.endKind : OpenGroup → String
  | .output _ => "variable_end"
  | .statement .. => "block_end"

def OpenGroup.push (t : Token) : OpenGroup → OpenGroup
  | .output stack => .output (t :: stack)
  | .statement line stack => .statement line (t :: stack)

/-- The groups of a stream from one place on. Outside groups, tokens of other kinds say nothing. -/
def groupsFrom : Option OpenGroup → List Token → List Group
  | none, [] => []
  | some o, [] => [o.group]
  | some o, t :: rest =>
    if t.kind == o.endKind then o.group :: groupsFrom none rest
    else groupsFrom (some (o.push t)) rest
  | none, t :: rest =>
    if t.kind == "data" then .text t.value :: groupsFrom none rest
    else if t.kind == "variable_begin" then groupsFrom (some (.output [])) rest
    else if t.kind == "block_begin" then groupsFrom (some (.statement t.line [])) rest
    else groupsFrom none rest

def groups (tokens : List Token) : List Group := groupsFrom none tokens

inductive Event where
  | text (value : Units)
  | output (stack : List Token)
  | statement (head : Head)
  deriving DecidableEq, Repr

/-- The statement of a group: its first token gives the name. -/
def Head.ofGroup (line : Int) : List Token → Option Head
  | [] => some ⟨[], line, []⟩
  | first :: rest => first.value.asText.map fun tag => ⟨tag, line, rest⟩

def Group.event : Group → Option Event
  | .text value => value.asText.map .text
  | .output stack => some (.output stack)
  | .statement line stack => (Head.ofGroup line stack).map .statement

/-- The events of a stream, unless the name of a statement cannot be converted to text. -/
def events (tokens : List Token) : Option (List Event) := (groups tokens).mapM Group.event

/-- Statements whose body runs to an end of their own. -/
def blockTags : List Units :=
  ["if", "for", "block", "macro", "call", "filter", "with", "autoescape"].map units

/-- Statements that begin another branch of the innermost block. -/
def branchTags : List Units := ["elif", "else"].map units

def endMark : Units := units "end"

/-- A statement that opens a block. An assignment does if it has no sign of assignment: then its
value is the body. -/
def Head.opensBlock (h : Head) : Bool :=
  if h.tag = units "set" then !h.stack.any fun t => t.kind == "assign" else blockTags.contains h.tag

def Head.ends (h : Head) (tag : Units) : Bool := h.tag == endMark ++ tag

structure Branching where
  body : List Node
  /-- The branches that are complete, latest first. -/
  complete : List Branch
  /-- The statement of the branch that is being filled. -/
  current : Head

structure Frame where
  head : Head
  /-- The nodes before the block in the list that it belongs to, latest first. -/
  before : List Node
  branching : Option Branching

/-- A tree under construction: the innermost list, latest node first, and the open blocks. -/
structure Growth where
  level : List Node
  frames : List Frame

def addText (value : Units) : List Node → List Node
  | .raw before :: rest => .raw (before ++ value) :: rest
  | level => .raw value :: level

def Frame.opened (head : Head) (before : List Node) : Frame := ⟨head, before, none⟩

/-- The body and the branches of a block whose innermost list is `level`. -/
def Frame.parts (f : Frame) (level : List Node) : List Node × List Branch :=
  match f.branching with
  | none => (level.reverse, [])
  | some b => (b.body, (.mk b.current level.reverse :: b.complete).reverse)

def Frame.nextBranch (f : Frame) (level : List Node) (head : Head) : Frame :=
  { f with
    branching :=
      match f.branching with
      | none => some ⟨level.reverse, [], head⟩
      | some b => some ⟨b.body, .mk b.current level.reverse :: b.complete, head⟩ }

def Frame.close (f : Frame) (level : List Node) : List Node :=
  .block f.head (f.parts level).1 (f.parts level).2 :: f.before

def Growth.add (g : Growth) : Event → Growth
  | .text value => { g with level := addText value g.level }
  | .output stack => { g with level := .output stack :: g.level }
  | .statement head =>
    match g.frames with
    | frame :: outer =>
      if head.ends frame.head.tag then ⟨frame.close g.level, outer⟩
      else if branchTags.contains head.tag then ⟨[], frame.nextBranch g.level head :: outer⟩
      else if head.opensBlock then ⟨[], .opened head g.level :: g.frames⟩
      else { g with level := .leaf head :: g.level }
    | [] =>
      if head.opensBlock then ⟨[], [.opened head g.level]⟩
      else { g with level := .leaf head :: g.level }

/-- The tree, with blocks that are still open ended where they are. -/
def closeAll (level : List Node) : List Frame → List Node
  | [] => level.reverse
  | frame :: outer => closeAll (frame.close level) outer

def Growth.tree (g : Growth) : List Node := closeAll g.level g.frames

def foldEvents (es : List Event) : List Node := (es.foldl Growth.add ⟨[], []⟩).tree

/-- The tree of a stream of tokens. There is none if a group gives no event. -/
def foldTokens (tokens : List Token) : Option (List Node) := (events tokens).map foldEvents

end Stencil.Tree
