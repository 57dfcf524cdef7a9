import Stencil.Yaml.Spot

/-!
Block scalars: lines below a header. The lines keep their breaks, or are folded where two lines of
text meet; the header says what becomes of the breaks at the end.
-/
namespace Stencil.Yaml

inductive Chomping where
  | strip
  | clip
  | keep
  deriving DecidableEq, Repr

def chompingOf? : Char → Option Chomping
  | '+' => some .keep
  | '-' => some .strip
  | _ => none

structure BlockHeader where
  chomping : Chomping
  increment : Option Nat

def readIncrement (r : Rest) : Except Failure (Option Nat × Rest) :=
  if (peek r).isDigit then
    if peek r = '0' then .error .malformed
    else .ok (some ((peek r).toNat - '0'.toNat), r.drop 1)
  else .ok (none, r)

def readChomping (r : Rest) : Option Chomping × Rest :=
  match chompingOf? (peek r) with
  | some c => (some c, r.drop 1)
  | none => (none, r)

/-- Reads a header: sign and indentation in either order. -/
def readBlockHeader (r : Rest) : Except Failure (BlockHeader × Rest) := do
  let (first, r) := readChomping r
  let (increment, r) ← readIncrement r
  let (second, r) := if first.isNone && increment.isSome then readChomping r else (none, r)
  if peek r ≠ '\t' ∧ isGap (peek r) then
    let r ← nextLine r
    return (⟨(first.or second).getD .clip, increment⟩, r)
  else .error .malformed

/-- Blank lines before the text: their breaks, and the deepest column that spaces lead to. -/
def leadingBlank : Rest → List Char × Nat × Rest
  | [] => ([], 0, [])
  | s :: rest =>
    let (breaks, deepest, after) := leadingBlank rest
    if s.char = ' ' then (breaks, max deepest (s.column + 1), after)
    else
      match breakOf? s.char with
      | some b => (b :: breaks, deepest, after)
      | none => ([], 0, s :: rest)

/-- Blank lines between lines of text, and the indentation of the next one. -/
def blockBreaks (indent : Nat) : Rest → List Char × Rest
  | [] => ([], [])
  | s :: rest =>
    if s.char = ' ' ∧ s.column < indent then blockBreaks indent rest
    else
      match breakOf? s.char with
      | some b =>
        let (others, after) := blockBreaks indent rest
        (b :: others, after)
      | none => ([], s :: rest)

def atBlockLine (indent : Nat) (r : Rest) : Bool := columnOf r == indent && peek r != endMark

/-- What stands between two lines of text: the break after the first, or a fold. -/
def blockJoint (folded : Bool) (first next lineBreak : Char) (breaks : List Char) : List Char :=
  if folded && lineBreak == '\n' && !isSpacing first && !isSpacing next then
    if breaks.isEmpty then [' '] else []
  else [lineBreak]

/-- The lines of a scalar, given the breaks before the next line and the one that ended the line
before. -/
def blockLines (folded : Bool) (indent : Nat) (chomping : Chomping) :
    Nat → List Char → List Char → Rest → List Char × Rest
  | 0, _, _, r => ([], r)
  | fuel + 1, lineBreak, breaks, r =>
    if atBlockLine indent r then
      let after := skipWhile (!endsLine ·) r
      let (here, next) :=
        match breakOf? (peek after) with
        | some b => ([b], after.drop 1)
        | none => ([], after)
      let (others, next) := blockBreaks indent next
      let joint :=
        if atBlockLine indent next then
          here.flatMap fun b => blockJoint folded (peek r) (peek next) b others
        else []
      let (more, rest) := blockLines folded indent chomping fuel here others next
      (breaks ++ runOf (!endsLine ·) r ++ joint ++ more, rest)
    else
      ((if chomping = .strip then [] else lineBreak) ++
        (if chomping = .keep then breaks else []), r)

/-- Reads a block scalar, its sign being read. Its lines stand at `margin` or deeper. -/
def readBlock (folded : Bool) (margin : Nat) (r : Rest) : Except Failure (List Char × Rest) := do
  let (header, r) ← readBlockHeader r
  let margin := max margin 1
  match header.increment with
  | some n =>
    let indent := margin + n - 1
    let (breaks, r) := blockBreaks indent r
    return blockLines folded indent header.chomping r.length [] breaks r
  | none =>
    let (breaks, deepest, r) := leadingBlank r
    return blockLines folded (max margin deepest) header.chomping r.length [] breaks r

end Stencil.Yaml
