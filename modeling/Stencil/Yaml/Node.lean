import Stencil.Yaml.Kind
import Stencil.Yaml.Token.Lexer

/-!
The values of a document before their scalars get a meaning. A value that is named by an anchor
stands wherever its alias stands; an alias inside the value that it names stands for the value
around it.
-/
namespace Stencil.Yaml

inductive Node where
  | scalar (kind : Kind) (text : List Char)
  | sequence (kind : Kind) (items : List Node)
  | mapping (kind : Kind) (entries : List (Node × Node))
  | around (isMapping : Bool)
  deriving Inhabited

/-- Nothing is written where a value could be. -/
def Node.empty : Node := .scalar .null []

inductive Anchored where
  | incomplete (isMapping : Bool)
  | complete (node : Node)

/-- The tokens that remain, the anchors so far, latest first, and the handles of tags. -/
structure Reader where
  tokens : List Token
  anchors : List (List Char × Anchored) := []
  handles : List (List Char × List Char)

abbrev Parse := StateT Reader (Except Failure)

namespace Parse

def refuse : Parse α := throw .malformed

def next : Parse (Option Token) := return (← get).tokens.head?

def atOneOf (ts : List Token) : Parse Bool := return (← next).any ts.contains

def advance : Parse Unit := modify fun r => { r with tokens := r.tokens.drop 1 }

def accept (t : Token) : Parse Bool := do
  let found ← atOneOf [t]
  if found then advance
  return found

def expect (t : Token) : Parse Unit := do
  if !(← accept t) then refuse

structure Properties where
  anchor : Option (List Char) := none
  tag : Option (List Char) := none

def resolveTag (handle : Option (List Char)) (suffix : List Char) : Parse (List Char) := do
  match handle with
  | none => return suffix
  | some h =>
    match (← get).handles.find? fun d => d.1 == h with
    | some (_, stem) => return stem ++ suffix
    | none => refuse

def readAnchor? : Parse (Option (List Char)) := do
  match ← next with
  | some (.anchor name) => do advance; return some name
  | _ => return none

/-- A tag, if there is one; its handle is resolved only when both properties are read. -/
def readTag? : Parse (Option (Option (List Char) × List Char)) := do
  match ← next with
  | some (.tag handle suffix) => do advance; return some (handle, suffix)
  | _ => return none

/-- An anchor and a tag, in either order, or one of them, or none. -/
def properties : Parse Properties := do
  let first ← readAnchor?
  let tag ← readTag?
  let second ← if first.isNone && tag.isSome then readAnchor? else pure none
  let tag ← match tag with
    | none => pure none
    | some (handle, suffix) => (resolveTag handle suffix).map some
  return ⟨first.or second, tag⟩

/-- Records what an anchor names; no two anchors of a document have the same name. -/
def declare (anchor : Option (List Char)) (value : Anchored) : Parse Unit := do
  match anchor with
  | none => return
  | some name =>
    if (← get).anchors.any fun a => a.1 == name then refuse
    else modify fun r => { r with anchors := (name, value) :: r.anchors }

/-- Replaces what an anchor names when its value is complete. -/
def complete (anchor : Option (List Char)) (node : Node) : Parse Node := do
  match anchor with
  | none => return node
  | some name =>
    modify fun r =>
      { r with
        anchors := r.anchors.map fun a => if a.1 == name then (name, .complete node) else a }
    return node

def aliased (name : List Char) : Parse Node := do
  match (← get).anchors.find? fun a => a.1 == name with
  | some (_, .complete node) => return node
  | some (_, .incomplete isMapping) => return .around isMapping
  | none => refuse

/-- The kind of a value: by its tag, or the given one if it has no tag or the tag that says
nothing. -/
def Properties.kind (p : Properties) (untagged : Kind) : Kind :=
  match p.tag with
  | none | some ['!'] => untagged
  | some tag => .ofTag tag

/-- The kind of a scalar. Quoted ones are texts unless a tag says that they are as if plain. -/
def Properties.scalarKind (p : Properties) (text : List Char) (plain : Bool) : Kind :=
  match p.tag with
  | none => if plain then .ofPlain text else .text
  | some ['!'] => .ofPlain text
  | some tag => .ofTag tag

/-- Nothing after an anchor or a tag stands for an empty scalar. -/
def emptyNode (p : Properties) : Parse Node := do
  if p.anchor.isNone && p.tag.isNone then refuse
  else
    let value : Node := .scalar (p.scalarKind [] true) []
    declare p.anchor (.complete value)
    return value

mutual

/-- A value. In a block it may be a block collection, and in an entry of a mapping its items may
stand without indentation. -/
def node (inBlock inEntry : Bool) : Nat → Parse Node
  | 0 => refuse
  | fuel + 1 => do
    if let some (.alias name) ← next then
      advance
      aliased name
    else
      let p ← properties
      match ← next with
      | some (.scalar text plain) => do
        advance
        let value : Node := .scalar (p.scalarKind text plain) text
        declare p.anchor (.complete value)
        return value
      | some .item =>
        if inEntry then do
          declare p.anchor (.incomplete false)
          complete p.anchor (.sequence (p.kind .list) (← looseItems fuel))
        else emptyNode p
      | some .flowSequence => do
        advance
        declare p.anchor (.incomplete false)
        complete p.anchor (.sequence (p.kind .list) (← flowItems true fuel))
      | some .flowMapping => do
        advance
        declare p.anchor (.incomplete true)
        complete p.anchor (.mapping (p.kind .map) (← flowEntries true fuel))
      | some .blockSequence =>
        if inBlock then do
          advance
          declare p.anchor (.incomplete false)
          complete p.anchor (.sequence (p.kind .list) (← blockItems fuel))
        else emptyNode p
      | some .blockMapping =>
        if inBlock then do
          advance
          declare p.anchor (.incomplete true)
          complete p.anchor (.mapping (p.kind .map) (← blockEntries fuel))
        else emptyNode p
      | _ => emptyNode p

/-- A value, or nothing if one of some tokens comes next. -/
def nodeUnless (stops : List Token) (inBlock inEntry : Bool) : Nat → Parse Node
  | 0 => refuse
  | fuel + 1 => do
    match ← next with
    | none => node inBlock inEntry fuel
    | some t => if stops.contains t then return .empty else node inBlock inEntry fuel

def blockItems : Nat → Parse (List Node)
  | 0 => refuse
  | fuel + 1 => do
    if ← accept .item then
      let first ← nodeUnless [.item, .blockEnd] true false fuel
      return first :: (← blockItems fuel)
    else do
      expect .blockEnd
      return []

def looseItems : Nat → Parse (List Node)
  | 0 => refuse
  | fuel + 1 => do
    if ← accept .item then
      let first ← nodeUnless [.item, .key, .value, .blockEnd] true false fuel
      return first :: (← looseItems fuel)
    else return []

def blockEntries : Nat → Parse (List (Node × Node))
  | 0 => refuse
  | fuel + 1 => do
    if ← accept .key then
      let stops := [Token.key, .value, .blockEnd]
      let k ← nodeUnless stops true true fuel
      let v ← if ← accept .value then nodeUnless stops true true fuel else pure .empty
      return (k, v) :: (← blockEntries fuel)
    else do
      expect .blockEnd
      return []

/-- The items of a flow sequence, up to its end. An item that is marked as a key is a mapping of one
entry. -/
def flowItems (first : Bool) : Nat → Parse (List Node)
  | 0 => refuse
  | fuel + 1 => do
    if ← accept .flowSequenceEnd then return []
    else
      if !first then expect .comma
      if ← accept .flowSequenceEnd then return []
      else
        let item ←
          if ← accept .key then
            let k ← nodeUnless [.value, .comma, .flowSequenceEnd] false false fuel
            let v ←
              if ← accept .value then nodeUnless [.comma, .flowSequenceEnd] false false fuel
              else pure .empty
            pure (Node.mapping .map [(k, v)])
          else node false false fuel
        return item :: (← flowItems false fuel)

/-- The entries of a flow mapping, up to its end. What is no key is the key of nothing. -/
def flowEntries (first : Bool) : Nat → Parse (List (Node × Node))
  | 0 => refuse
  | fuel + 1 => do
    if ← accept .flowMappingEnd then return []
    else
      if !first then expect .comma
      if ← accept .flowMappingEnd then return []
      else
        let entry ←
          if ← accept .key then
            let k ← nodeUnless [.value, .comma, .flowMappingEnd] false false fuel
            let v ←
              if ← accept .value then nodeUnless [.comma, .flowMappingEnd] false false fuel
              else pure .empty
            pure (k, v)
          else do
            let k ← node false false fuel
            pure (k, .empty)
        return entry :: (← flowEntries false fuel)

end

def defaultHandles : List (List Char × List Char) := [(['!'], ['!']), (['!', '!'], tagStem)]

/-- Directives before a document: one version at most, and handles with different names. -/
def directives (versioned : Bool) : List Token → Parse (List Token)
  | .directive d :: rest =>
    match d with
    | .version major => if versioned || major != 1 then refuse else directives true rest
    | .handle name stem => do
      if (← get).handles.any fun h => h.1 == name then refuse
      else
        modify fun r => { r with handles := (name, stem) :: r.handles }
        directives versioned rest
    | .other => directives versioned rest
  | rest => pure rest

/-- The value of a document after its mark; there may be none. -/
def content (fuel : Nat) : Parse Node := do
  match ← next with
  | none | some (.directive _) | some .documentStart | some .documentEnd => return .empty
  | _ => node true false fuel

def finish : Parse Unit := do
  if !((← get).tokens.all (· == .documentEnd)) then refuse

/-- The document. Without marks and directives it begins at once. -/
def document (fuel : Nat) : Parse (Option Node) := do
  match ← next with
  | none => return none
  | some (.directive _) | some .documentStart => do
    let rest ← directives false (← get).tokens
    modify fun r => { r with tokens := rest, handles := r.handles ++ defaultHandles }
    expect .documentStart
    let value ← content fuel
    finish
    return some value
  | _ => do
    modify fun r => { r with handles := defaultHandles }
    let value ← node true false fuel
    finish
    return some value

end Parse

/-- The value of the only document in a text; none if there is no document. -/
def Node.read (text : List Char) : Except Failure (Option Node) := do
  let tokens ← tokensOf text
  (Parse.document (4 * tokens.length + 4)).run' { tokens, handles := [] }

end Stencil.Yaml
