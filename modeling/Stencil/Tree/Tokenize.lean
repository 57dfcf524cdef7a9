import Stencil.CompileError
import Stencil.Log
import Stencil.Template.Outline
import Stencil.Tree.Fold

/-!
From the source of a template to its token tree. The grammar is checked first; then the tokens of
the same source are folded.
-/
namespace Stencil.Tree

open Text Template

/-- A failure of the template language as the error of a file. -/
def failureFor (name : String) : Failure → CompileFailure
  | .fault f => .error ⟨.tokenize, f.cause.message, some name, some f.line⟩
  | .tooManyDigits => .breakdown .tooManyDigits
  | .foreignDigit => .breakdown .foreignDigit
  | .nestedTooDeeply => .breakdown .nestedTooDeeply

/-- The token tree of a source, if the grammar accepts the source. -/
def ofSource (names : CharacterNames) (source : List Char) : Except Failure (List Node) :=
  let cut := cut names source
  match outline cut with
  | .error f => .error f
  | .ok _ =>
    match foldTokens (Token.ofPieces cut.pieces) with
    | some tree => .ok tree
    | none => .error .tooManyDigits

/-- The token tree of a template; errors are reported for `name`. -/
def tokenize (names : CharacterNames) (name : String) (source : List Char) :
    Except CompileFailure (List Node) :=
  (ofSource names source).mapError (failureFor name)

def tokenizedRecord (name : String) (tree : List Node) : LogRecord :=
  ⟨.debug, .template,
    "Tokenized " ++ name ++ " into " ++ toString tree.length ++ " top-level nodes"⟩

end Stencil.Tree
