import Stencil.Yaml.Spot

/-!
Plain scalars: text without quotation marks. A scalar may go on over several lines; one line break
between two parts becomes a space, and of more the first is left out.
-/
namespace Stencil.Yaml

structure PlainScalar where
  text : List Char
  atLineStart : Bool
  rest : Rest

def isFlowMark (c : Char) : Bool := [',', '[', ']', '{', '}'].contains c

/-- A plain scalar ends before a character, given the one that follows it. -/
def endsPlain (flow : Bool) (c next : Char) : Bool :=
  isGap c || (c == ':' && (isGap next || (flow && isFlowMark next))) ||
    (flow && (c == '?' || isFlowMark c))

def plainPart (flow : Bool) : Rest → List Char × Rest
  | [] => ([], [])
  | s :: rest =>
    if endsPlain flow s.char (peek rest) then ([], s :: rest)
    else
      let (part, after) := plainPart flow rest
      (s.char :: part, after)

/-- What a line break and those after it become inside a scalar. -/
def foldBreaks (first : Char) (others : List Char) : List Char :=
  if first ≠ '\n' then first :: others
  else if others.isEmpty then [' ']
  else others

/-- Line breaks and spaces before the next part of a scalar; without the breaks if a mark between
documents comes first. -/
def plainBreaks : Rest → Option (List Char) × Rest
  | [] => (some [], [])
  | s :: rest =>
    if s.char = ' ' then plainBreaks rest
    else
      match breakOf? s.char with
      | none => (some [], s :: rest)
      | some b =>
        if atDocumentMark rest then (none, rest)
        else
          let (others, after) := plainBreaks rest
          (others.map (b :: ·), after)

/-- The text of the gap before the next part of a scalar. Nothing stands for the end of the
scalar. -/
def plainGap (r : Rest) : PlainScalar :=
  match skipSpaces r with
  | [] => ⟨[], false, []⟩
  | s :: rest =>
    match breakOf? s.char with
    | none => ⟨runOf (· == ' ') r, false, s :: rest⟩
    | some b =>
      if atDocumentMark rest then ⟨[], true, rest⟩
      else
        match plainBreaks rest with
        | (some others, after) => ⟨foldBreaks b others, true, after⟩
        | (none, after) => ⟨[], true, after⟩

/-- The parts of a scalar, with the gaps between them. A line of a block scalar does not begin
before `margin`. -/
def plainParts (flow : Bool) (margin : Nat) : Nat → Rest → PlainScalar
  | 0, r => ⟨[], false, r⟩
  | fuel + 1, r =>
    let (part, after) := plainPart flow r
    let gap := plainGap after
    if gap.text.isEmpty || peek gap.rest == '#' || (!flow && columnOf gap.rest < margin) then
      { gap with text := part }
    else
      let more := plainParts flow margin fuel gap.rest
      if more.text.isEmpty then { gap with text := part }
      else { more with text := part ++ gap.text ++ more.text }

def readPlain (flow : Bool) (margin : Nat) (r : Rest) : PlainScalar :=
  plainParts flow margin r.length r

/-- A plain scalar may begin with a character, given the one that follows it. -/
def startsPlain (flow : Bool) (c next : Char) : Bool :=
  !(isGap c || "-?:,[]\x7b\x7d#&*!|>'\"%@\x60".toList.contains c) ||
    (!isGap next && (c == '-' || (!flow && (c == '?' || c == ':'))))

end Stencil.Yaml
