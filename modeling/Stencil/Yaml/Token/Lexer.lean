import Stencil.Yaml.Property
import Stencil.Yaml.Scalar.Block
import Stencil.Yaml.Scalar.Quoted

/-!
Cutting a document into tokens. Indentation opens and closes block collections. Whether something is
a key shows only at its colon; until then it is remembered as a possible key, and the tokens that
make it one are put in before it afterwards.
-/
namespace Stencil.Yaml

structure PossibleKey where
  before : Nat
  /-- Nothing else can stand at its place. -/
  required : Bool
  spot : Spot

structure Scan where
  rest : Rest
  /-- The tokens, latest first. -/
  tokens : List Token := []
  possible : Option PossibleKey := none
  outer : List (Option PossibleKey) := []
  /-- The columns of the block collections that are open, innermost first. -/
  columns : List Nat := []
  keyAllowed : Bool := true

namespace Scan

def inFlow (s : Scan) : Bool := !s.outer.isEmpty

def next (s : Scan) : Char := peek s.rest

def second (s : Scan) : Char := peek (s.rest.drop 1)

def here (s : Scan) : Spot := spot s.rest

def emit (s : Scan) (t : Token) : Scan := { s with tokens := t :: s.tokens }

/-- Puts tokens in where `before` tokens are read. -/
def emitAt (s : Scan) (before : Nat) (ts : List Token) : Scan :=
  let later := s.tokens.length - before
  { s with tokens := s.tokens.take later ++ ts.reverse ++ s.tokens.drop later }

def skip (s : Scan) (n : Nat) : Scan := { s with rest := s.rest.drop n }

def allowKey (s : Scan) (allowed : Bool) : Scan := { s with keyAllowed := allowed }

/-- A column lies inside all block collections that are open. -/
def isDeeper (s : Scan) (column : Nat) : Bool :=
  match s.columns with
  | [] => true
  | innermost :: _ => innermost < column

/-- The least column of a scalar that goes on in a new line. -/
def margin (s : Scan) : Nat :=
  match s.columns with
  | [] => 0
  | innermost :: _ => innermost + 1

/-- Opens a block collection if its column lies inside the open ones; `token` begins it where
`before` tokens are read. -/
def openAt (s : Scan) (column before : Nat) (token : Token) : Scan :=
  if s.isDeeper column then
    { s.emitAt before [token] with columns := column :: s.columns }
  else s

def openHere (s : Scan) (token : Token) : Scan :=
  s.openAt s.here.column s.tokens.length token

/-- Closes the block collections whose columns satisfy a condition. -/
def closeWhile (s : Scan) (p : Nat → Bool) : Scan :=
  let closed := s.columns.takeWhile p
  { s with
    columns := s.columns.dropWhile p
    tokens := List.replicate closed.length .blockEnd ++ s.tokens }

/-- Gives up the possible key of the innermost collection. -/
def dropKey (s : Scan) : Except Failure Scan :=
  match s.possible with
  | some ⟨_, true, _⟩ => .error .malformed
  | _ => .ok { s with possible := none }

/-- What comes next is a possible key, if keys are allowed. -/
def saveKey (s : Scan) : Except Failure Scan := do
  if s.keyAllowed then
    let s ← s.dropKey
    let required := !s.inFlow && s.columns.head? == some s.here.column
    return { s with possible := some ⟨s.tokens.length, required, s.here⟩ }
  else return s

/-- A possible key is too far away to be one. -/
def isStale (here : Spot) (k : PossibleKey) : Bool :=
  k.spot.line != here.line || k.spot.index + 1024 < here.index

/-- A possible key, unless it is too far away. -/
def refresh (here : Spot) : Option PossibleKey → Except Failure (Option PossibleKey)
  | none => .ok none
  | some k =>
    if isStale here k then if k.required then .error .malformed else .ok none
    else .ok (some k)

/-- What comes after spaces, comments and line breaks, and whether there was a line break. -/
def skipFiller (inComment : Bool) : Rest → Rest × Bool
  | [] => ([], false)
  | s :: rest =>
    if isBreak s.char then ((skipFiller false rest).1, true)
    else if s.char = endMark then (s :: rest, false)
    else if inComment || s.char == '#' then skipFiller true rest
    else if s.char = ' ' then skipFiller false rest
    else (s :: rest, false)

/-- Goes to the next token: possible keys that are too far away are given up, and block collections
that it lies outside of are closed. -/
def settle (s : Scan) : Except Failure Scan := do
  let (rest, crossed) := skipFiller false s.rest
  let s := { s with rest, keyAllowed := s.keyAllowed || (crossed && !s.inFlow) }
  let possible ← refresh s.here s.possible
  let outer ← s.outer.mapM (refresh s.here)
  let s := { s with possible, outer }
  return if s.inFlow then s else s.closeWhile (s.here.column < ·)

/-- Closes everything before a mark or a directive. -/
def closeAll (s : Scan) : Except Failure Scan := do
  if s.inFlow then (← s.dropKey).allowKey false |> pure
  else (← (s.closeWhile fun _ => true).dropKey).allowKey false |> pure

def directive (s : Scan) : Except Failure Scan := do
  let s ← s.closeAll
  let (d, rest) ← readDirective (s.rest.drop 1)
  return { s.emit (.directive d) with rest }

def documentMark (s : Scan) (token : Token) : Except Failure Scan := do
  return ((← s.closeAll).emit token).skip 3

def openFlow (s : Scan) (token : Token) : Except Failure Scan := do
  let s ← s.saveKey
  return ({ s with outer := s.possible :: s.outer, possible := none }.allowKey true
    |>.emit token).skip 1

def closeFlow (s : Scan) (token : Token) : Except Failure Scan := do
  let s ← s.dropKey
  match s.outer with
  | [] => .error .malformed
  | possible :: outer =>
    return ({ s with outer, possible }.allowKey false |>.emit token).skip 1

def comma (s : Scan) : Except Failure Scan := do
  return (((← s.dropKey).allowKey true).emit .comma).skip 1

def item (s : Scan) : Except Failure Scan := do
  if !s.inFlow && !s.keyAllowed then .error .malformed
  else
    let s := if s.inFlow then s else s.openHere .blockSequence
    return (((← s.dropKey).allowKey true).emit .item).skip 1

def markedKey (s : Scan) : Except Failure Scan := do
  if !s.inFlow && !s.keyAllowed then .error .malformed
  else
    let s := if s.inFlow then s else s.openHere .blockMapping
    return (((← s.dropKey).allowKey !s.inFlow).emit .key).skip 1

def value (s : Scan) : Except Failure Scan := do
  match s.possible with
  | some k =>
    let s := { s.emitAt k.before [.key] with possible := none }
    let s := if s.inFlow then s else s.openAt k.spot.column k.before .blockMapping
    return ((s.allowKey false).emit .value).skip 1
  | none =>
    if !s.inFlow && !s.keyAllowed then .error .malformed
    else
      let s := if s.inFlow then s else s.openHere .blockMapping
      return (((← s.dropKey).allowKey !s.inFlow).emit .value).skip 1

def property (s : Scan) (read : Rest → Except Failure (Token × Rest)) : Except Failure Scan := do
  let s ← s.saveKey
  let (token, rest) ← read s.rest
  return { (s.allowKey false).emit token with rest }

def named (token : List Char → Token) (r : Rest) : Except Failure (Token × Rest) :=
  (readAnchor (r.drop 1)).map fun (name, rest) => (token name, rest)

def quoted (double : Bool) (r : Rest) : Except Failure (Token × Rest) :=
  (readQuoted double (r.drop 1)).map fun (text, rest) => (.scalar text false, rest)

def block (s : Scan) (folded : Bool) : Except Failure Scan := do
  let s ← (s.allowKey true).dropKey
  let (text, rest) ← readBlock folded s.margin (s.rest.drop 1)
  return { s.emit (.scalar text false) with rest }

/-- A plain scalar. A key may follow it if it ended with a line. -/
def plain (s : Scan) : Except Failure Scan := do
  let s ← s.saveKey
  let found := readPlain s.inFlow s.margin s.rest
  return { (s.allowKey found.atLineStart).emit (.scalar found.text true) with rest := found.rest }

def step (s : Scan) : Except Failure Scan :=
  let c := s.next
  let atStart := s.here.column == 0
  let isMark := s.inFlow || isGap s.second
  if c == '%' && atStart then s.directive
  else if atStart && atMark '-' s.rest then s.documentMark .documentStart
  else if atStart && atMark '.' s.rest then s.documentMark .documentEnd
  else if c == '[' then s.openFlow .flowSequence
  else if c == '{' then s.openFlow .flowMapping
  else if c == ']' then s.closeFlow .flowSequenceEnd
  else if c == '}' then s.closeFlow .flowMappingEnd
  else if c == ',' then s.comma
  else if c == '-' && isGap s.second then s.item
  else if c == '?' && isMark then s.markedKey
  else if c == ':' && isMark then s.value
  else if c == '*' then s.property (named .alias)
  else if c == '&' then s.property (named .anchor)
  else if c == '!' then s.property readTag
  else if c == '|' && !s.inFlow then s.block false
  else if c == '>' && !s.inFlow then s.block true
  else if c == '\'' then s.property (quoted false)
  else if c == '"' then s.property (quoted true)
  else if startsPlain s.inFlow c s.second then s.plain
  else .error .malformed

/-- Reads tokens to the end. Each one takes a character or more. -/
def run : Nat → Scan → Except Failure (List Token)
  | 0, _ => .error .malformed
  | fuel + 1, s => do
    let s ← s.settle
    if s.next = endMark then return (← s.closeAll).tokens.reverse
    else run fuel (← s.step)

end Scan

def tokensOf (text : List Char) : Except Failure (List Token) :=
  let rest := place text
  Scan.run rest.length { rest }

end Stencil.Yaml
