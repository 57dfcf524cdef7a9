import Stencil.Template.Symbol

/-!
A template as the sequence of its pieces: plain text, and groups of symbols between delimiters.
-/
namespace Stencil.Template

inductive Delimiter where
  | output
  | tag
  deriving DecidableEq, Repr

def Delimiter.endDescription : Delimiter → String
  | .output => "end of print statement"
  | .tag => "end of statement block"

inductive Piece where
  | text (line : Nat) (s : String)
  | group (kind : Delimiter) (line : Nat) (symbols : List Symbol) (closing : Option Nat)
  deriving DecidableEq, Repr

def Piece.lastLine : Piece → Nat
  | .text line _ => line
  | .group _ line symbols closing =>
    closing.getD ((symbols.getLast?.map Symbol.line).getD line)

end Stencil.Template
