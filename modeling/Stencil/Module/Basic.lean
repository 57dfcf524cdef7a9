import Stencil.Json.Writer

/-!
The generated module: one call of the template constructor of the runtime, assigned to the exports.
-/
namespace Stencil

open Text

inductive Identifier where
  | literal (value : String)
  | deferred
  deriving DecidableEq, Repr

namespace Module

def callStart : List Char := "Twig.twig(\x7b id: ".toList

def placeholders : List Char := "__filename, path: __dirname".toList

/-- What stands between the name and the token tree. -/
def dataMark : List Char := ", data:".toList

def callEnd : List Char := ", precompiled: true, allowInlineIncludes: true \x7d)".toList

def moduleStart : List Char := "\nmodule.exports = ".toList

def identifierText : Identifier → List Char
  | .literal value => Json.writeText (units value)
  | .deferred => placeholders

/-- The constructor call for a template whose token tree is written as `tokens`. -/
def constructorCall (identifier : Identifier) (tokens : List Char) : List Char :=
  callStart ++ identifierText identifier ++ dataMark ++ tokens ++ callEnd

def wrap (fragment : List Char) : List Char := moduleStart ++ fragment ++ [';']

end Module

end Stencil
