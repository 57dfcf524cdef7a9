import Stencil.Text.Hex
import Stencil.Yaml.Scalar.Plain

/-!
Scalars between quotation marks. Between single ones a mark is written twice; between double ones
there are escapes with a backslash. Line breaks fold as they do in plain scalars.
-/
namespace Stencil.Yaml

open Text

attribute [local instance (high)] instPowNat

def shortEscape? : Char → Option Char
  | '0' => some '\x00'
  | 'a' => some '\x07'
  | 'b' => some '\x08'
  | 't' | '\t' => some '\t'
  | 'n' => some '\n'
  | 'v' => some '\x0B'
  | 'f' => some '\x0C'
  | 'r' => some '\r'
  | 'e' => some '\x1B'
  | ' ' => some ' '
  | '"' => some '"'
  | '\\' => some '\\'
  | '/' => some '/'
  | 'N' => some '\x85'
  | '_' => some '\xA0'
  | 'L' => some '\u2028'
  | 'P' => some '\u2029'
  | _ => none

/-- How many hexadecimal digits follow the letter of an escape. -/
def escapeWidth? : Char → Option Nat
  | 'x' => some 2
  | 'u' => some 4
  | 'U' => some 8
  | _ => none

/-- The character of a code point; a surrogate stands for damage. -/
def charOfCode (n : Nat) : Except Failure Char :=
  if 2 ^ (31 : Nat) ≤ n then .error .tooLarge
  else if 0x110000 ≤ n then .error .unreadable
  else if 0xD800 ≤ n ∧ n < 0xE000 then .ok '\uFFFD'
  else .ok (Char.ofNat n)

/-- The line breaks after the first one in a gap, spacing left out. -/
def quotedBreaks : Rest → Except Failure (List Char × Rest)
  | [] => .ok ([], [])
  | s :: rest =>
    if s.column = 0 ∧ atDocumentMark (s :: rest) then .error .malformed
    else if isSpacing s.char then quotedBreaks rest
    else
      match breakOf? s.char with
      | none => .ok ([], s :: rest)
      | some b => (quotedBreaks rest).map fun (others, after) => (b :: others, after)

/-- What an escape stands for, its backslash being read. -/
def quotedEscape : Rest → Except Failure (List Char × Rest)
  | [] => .error .malformed
  | s :: rest =>
    match shortEscape? s.char, escapeWidth? s.char with
    | some c, _ => .ok ([c], rest)
    | none, some width =>
      match hexNumber? width (chars (rest.take width)) with
      | none => .error .malformed
      | some n => (charOfCode n).map fun c => ([c], rest.drop width)
    | none, none => if isBreak s.char then quotedBreaks rest else .error .malformed

/-- What spacing or a line break becomes, and what follows. -/
def quotedGap (r : Rest) : Except Failure (List Char × Rest) :=
  match skipWhile isSpacing r with
  | [] => .error .malformed
  | s :: rest =>
    match breakOf? s.char with
    | some b => (quotedBreaks rest).map fun (others, after) => (foldBreaks b others, after)
    | none => .ok (runOf isSpacing r, s :: rest)

/-- The text up to the closing mark. Each round takes a character or more. -/
def quotedText (double : Bool) : Nat → Rest → Except Failure (List Char × Rest)
  | 0, _ => .error .malformed
  | _, [] => .error .malformed
  | fuel + 1, s :: rest =>
    let goOn (piece : List Char × Rest) : Except Failure (List Char × Rest) :=
      (quotedText double fuel piece.2).map fun (more, after) => (piece.1 ++ more, after)
    if s.char = endMark then .error .malformed
    else if s.char = (if double then '"' else '\'') then
      if !double && peek rest == '\'' then goOn (['\''], rest.drop 1) else .ok ([], rest)
    else if double && s.char == '\\' then
      match quotedEscape rest with
      | .error e => .error e
      | .ok piece => goOn piece
    else if isGap s.char then
      match quotedGap (s :: rest) with
      | .error e => .error e
      | .ok piece => goOn piece
    else goOn ([s.char], rest)

def readQuoted (double : Bool) (r : Rest) : Except Failure (List Char × Rest) :=
  quotedText double r.length r

end Stencil.Yaml
