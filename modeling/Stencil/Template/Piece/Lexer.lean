import Stencil.Template.Failure
import Stencil.Template.Numeral
import Stencil.Template.Piece
import Stencil.Text.Blank
import Stencil.Text.Lines

/-!
Cutting a source into pieces. The source is read left to right; a step looks at the text from one
place on, says how many characters it takes and what they are, and the reading goes on behind them.
What cannot be cut ends the sequence, so everything before it can still be looked at.
-/
namespace Stencil.Template

open Text

inductive Mode where
  | text
  | comment
  | raw
  /-- Inside a group that began on `line`: brackets that wait for their closer, innermost first,
  and the symbols so far, latest first. -/
  | inside (kind : Delimiter) (line : Nat) (closers : List Char) (symbols : List Symbol)

inductive Step where
  | go (length : Nat) (pieces : List Piece) (mode : Mode)
  | stop (failure : Failure)

inductive Opener where
  | output
  | tag
  | comment
  | raw
  deriving DecidableEq, Repr

/-- The first place where something is found: the text before it, and what is found. -/
def findFirst (found : List Char → Option α) : List Char → Option (List Char × α)
  | [] => none
  | c :: rest =>
    match found (c :: rest) with
    | some a => some ([], a)
    | none => (findFirst found rest).map fun (before, a) => (c :: before, a)

/-- The length of the sign that may follow an opening delimiter. -/
def signLength : List Char → Nat
  | '-' :: _ => 1
  | '+' :: _ => 1
  | _ => 0

/-- The length of white space, a word and white space, if the word is there. -/
def paddedLength (word : List Char) (s : List Char) : Option Nat :=
  let lead := blankLength s
  if word.isPrefixOf (s.drop lead) then
    some (lead + word.length + blankLength (s.drop (lead + word.length)))
  else none

/-- The length of a closing delimiter with `-`, which takes the white space behind it along. -/
def trimmingLength (delimiter : List Char) (s : List Char) : Option Nat :=
  if ('-' :: delimiter).isPrefixOf s then
    some (delimiter.length + 1 + blankLength (s.drop (delimiter.length + 1)))
  else none

/-- The length of a closing delimiter, with `-` or without a sign. -/
def closingLength (delimiter : List Char) (s : List Char) : Option Nat :=
  (trimmingLength delimiter s).or
    (if delimiter.isPrefixOf s then some delimiter.length else none)

def signedClosingLength (delimiter : List Char) (s : List Char) : Option Nat :=
  if ('+' :: delimiter).isPrefixOf s then some (delimiter.length + 1)
  else closingLength delimiter s

def tagEnd : List Char := ['%', '}']

def outputEnd : List Char := ['}', '}']

def commentEnd : List Char := ['#', '}']

def rawBeginLength (s : List Char) : Option Nat := do
  let sign := 2 + signLength (s.drop 2)
  let word ← paddedLength ['r', 'a', 'w'] (s.drop sign)
  let close ← closingLength tagEnd (s.drop (sign + word))
  some (sign + word + close)

/-- The length of the tag that closes a raw section, and whether it trims the text before it. -/
def rawEnd? : List Char → Option (Bool × Nat)
  | '{' :: '%' :: rest => do
    let sign := signLength rest
    let word ← paddedLength ['e', 'n', 'd', 'r', 'a', 'w'] (rest.drop sign)
    let close ← signedClosingLength tagEnd (rest.drop (sign + word))
    some (rest.head? == some '-', 2 + sign + word + close)
  | _ => none

/-- What an opening delimiter opens, whether it trims the text before it, and its length. -/
def opener? : List Char → Option (Opener × Bool × Nat)
  | '{' :: c :: rest =>
    let trims := rest.head? == some '-'
    let length := 2 + signLength rest
    if c = '{' then some (.output, trims, length)
    else if c = '#' then some (.comment, trims, length)
    else if c = '%' then
      match rawBeginLength ('{' :: c :: rest) with
      | some length => some (.raw, trims, length)
      | none => some (.tag, trims, length)
    else none
  | _ => none

def textPiece (line : Nat) (trims : Bool) (s : List Char) : List Piece :=
  let s := if trims then trimRight s else s
  if s.isEmpty then [] else [.text line (String.ofList s)]

/-- The length of a string literal after its opening quote. -/
def literalLength (quote : Char) : List Char → Option Nat
  | [] => none
  | '\\' :: _ :: rest => (literalLength quote rest).map (· + 2)
  | c :: rest =>
    if c = quote then some 1
    else if c = '\\' then none
    else (literalLength quote rest).map (· + 1)

def operator? (s : List Char) : Option Operator :=
  Operator.all.find? fun op => op.text.toList.isPrefixOf s

def closerOf : Operator → Option Char
  | .lbrace => some '}'
  | .lparen => some ')'
  | .lbracket => some ']'
  | _ => none

/-- Brackets that wait for their closer, after one more operator. -/
def balance (closers : List Char) (op : Operator) : Except Cause (List Char) :=
  match closerOf op with
  | some c => .ok (c :: closers)
  | none =>
    if op = .rbrace ∨ op = .rparen ∨ op = .rbracket then
      let c := (op.text.toList.head?).getD ' '
      match closers with
      | [] => .error (.strayCloser c)
      | expected :: others => if expected = c then .ok others else .error (.wrongCloser c expected)
    else .ok closers

structure Place where
  line : Nat
  position : Nat
  afterDot : Bool

/-- Outside all delimiters: text up to the next opening delimiter. -/
def textStep (place : Place) (s : List Char) : Step :=
  match findFirst opener? s with
  | none => .go s.length (textPiece place.line false s) .text
  | some (before, opener, trims, length) =>
    let line := place.line + countBreaks before
    .go (before.length + length) (textPiece place.line trims before)
      (match opener with
        | .output => .inside .output line [] []
        | .tag => .inside .tag line [] []
        | .comment => .comment
        | .raw => .raw)

def commentStep (place : Place) (s : List Char) : Step :=
  match findFirst (signedClosingLength commentEnd) s with
  | none => .stop (.fault ⟨.openComment, place.line⟩)
  | some (before, length) => .go (before.length + length) [] .text

/-- Inside a raw section: text up to the tag that closes it. -/
def rawStep (place : Place) (s : List Char) : Step :=
  match findFirst rawEnd? s with
  | none => .stop (.fault ⟨.openRaw, place.line⟩)
  | some (before, trims, length) =>
    .go (before.length + length) (textPiece place.line trims before) .text

def groupEndLength (kind : Delimiter) (s : List Char) : Option Nat :=
  match kind with
  | .output => closingLength outputEnd s
  | .tag => signedClosingLength tagEnd s

/-- A word that a text begins with and its length, white space apart. -/
def readWord (names : CharacterNames) (place : Place) (s : List Char) :
    Except Failure (Word × Nat) :=
  let float := if place.afterDot then 0 else floatLength s
  let integer := integerLength s
  let name := s.takeWhile isWordChar
  if 0 < float then (floatValue (s.take float)).map fun x => (.float x, float)
  else if 0 < integer then (integerValue (s.take integer)).map fun n => (.integer n, integer)
  else if !name.isEmpty then
    if isName name then .ok (.name (String.ofList name), name.length)
    else .error (.fault ⟨.badName, place.line⟩)
  else
    match s with
    | [] => .error (.fault ⟨.strayChar ' ' place.position, place.line⟩)
    | c :: rest =>
      let literal := if c = '\'' ∨ c = '"' then literalLength c rest else none
      match literal with
      | some length =>
        match unescape names (rest.take (length - 1)) with
        | .ok value => .ok (.string value, length + 1)
        | .error e => .error (.fault ⟨.badEscape e, place.line⟩)
      | none =>
        match operator? s with
        | some op => .ok (.operator op, op.text.length)
        | none => .error (.fault ⟨.strayChar c place.position, place.line⟩)

/-- Inside a group: its closing delimiter if no bracket is open, white space, or one symbol. -/
def groupStep (names : CharacterNames) (kind : Delimiter) (line : Nat) (closers : List Char)
    (symbols : List Symbol) (place : Place) (s : List Char) : Step :=
  match if closers.isEmpty then groupEndLength kind s else none with
  | some length => .go length [.group kind line symbols.reverse (some place.line)] .text
  | none =>
    if 0 < blankLength s then .go (blankLength s) [] (.inside kind line closers symbols)
    else
      match readWord names place s with
      | .error e => .stop e
      | .ok (.operator op, length) =>
        match balance closers op with
        | .error cause => .stop (.fault ⟨cause, place.line⟩)
        | .ok closers =>
          .go length [] (.inside kind line closers (⟨place.line, .operator op⟩ :: symbols))
      | .ok (word, length) =>
        .go length [] (.inside kind line closers (⟨place.line, word⟩ :: symbols))

def Mode.step (names : CharacterNames) : Mode → Place → List Char → Step
  | .text, place, s => textStep place s
  | .comment, place, s => commentStep place s
  | .raw, place, s => rawStep place s
  | .inside kind line closers symbols, place, s =>
    groupStep names kind line closers symbols place s

def Mode.unfinished : Mode → List Piece
  | .inside kind line _ symbols => [.group kind line symbols.reverse none]
  | _ => []

structure Cut where
  pieces : List Piece
  failure : Option Failure
  deriving DecidableEq, Repr

/-- The place behind the first `length` characters. -/
def Place.after (place : Place) (s : List Char) (length : Nat) : Place :=
  let passed := s.take length
  ⟨place.line + countBreaks passed, place.position + length, passed.getLast? == some '.'⟩

/-- The pieces from one place on, after `pending` more characters of the step before. -/
def cutFrom (names : CharacterNames) (mode : Mode) (place : Place) : Nat → List Char → Cut
  | _, [] => ⟨mode.unfinished, none⟩
  | pending + 1, _ :: rest => cutFrom names mode place pending rest
  | 0, c :: rest =>
    match mode.step names place (c :: rest) with
    | .stop failure => ⟨mode.unfinished, some failure⟩
    | .go length pieces next =>
      let cut := cutFrom names next (place.after (c :: rest) length) (length - 1) rest
      ⟨pieces ++ cut.pieces, cut.failure⟩

/-- The pieces of a source, whatever its line breaks. -/
def cut (names : CharacterNames) (source : List Char) : Cut :=
  cutFrom names .text ⟨1, 0, false⟩ 0 (normalizeBreaks source)

end Stencil.Template
