import Stencil.Json.Basic
import Stencil.Json.Writer
import Stencil.Template.Piece

/-!
The flat stream of tokens that a token tree is built from. Kinds are open: a stream may hold tokens
of kinds that the tree gives no meaning to.
-/
namespace Stencil.Tree

open Number Text Template

inductive Literal where
  | text (s : Units)
  | integer (n : Int)
  | number (x : Double)
  deriving DecidableEq, Repr

structure Token where
  line : Int
  kind : String
  value : Literal
  deriving DecidableEq, Repr

namespace Literal

/-- The value as text. A whole number of too many digits has none. -/
def asText : Literal → Option Units
  | .text s => some s
  | .integer n => (Json.integer n).serialize.map unitsOfChars
  | .number x => some (unitsOfChars (x.text "inf" "nan"))

def toJson : Literal → Json
  | .text s => .text s
  | .integer n => .integer n
  | .number x => .number x

end Literal

namespace Token

def toJson (t : Token) : Json :=
  .record [("type", .ofString t.kind), ("value", t.value.toJson), ("line", .integer t.line)]

def ofString (line : Int) (kind value : String) : Token := ⟨line, kind, .text (units value)⟩

def ofSymbol (s : Symbol) : Token :=
  ⟨s.line, s.word.label,
    match s.word with
    | .name s => .text (units s)
    | .string value => .text value
    | .integer n => .integer n
    | .float x => .number x
    | .operator op => .text (units op.text)⟩

end Token

def beginKind : Delimiter → String
  | .output => "variable_begin"
  | .tag => "block_begin"

def endKind : Delimiter → String
  | .output => "variable_end"
  | .tag => "block_end"

/-- How a delimiter is written: at the beginning and at the end of its group. -/
def delimiterTexts : Delimiter → String × String
  | .output => ("\x7b\x7b", "\x7d\x7d")
  | .tag => ("\x7b%", "%\x7d")

def Token.ofPiece : Piece → List Token
  | .text line s => [.ofString line "data" s]
  | .group kind line symbols closing =>
    .ofString line (beginKind kind) (delimiterTexts kind).1 :: symbols.map .ofSymbol ++
      closing.toList.map fun line => .ofString line (endKind kind) (delimiterTexts kind).2

def Token.ofPieces (pieces : List Piece) : List Token := pieces.flatMap Token.ofPiece

end Stencil.Tree
