import Stencil.Config
import Stencil.Minify
import Stencil.Module.Basic
import Stencil.Tree.Tokenize

/-!
Compiling one template: its markup is minified if the configuration says so, its tokens are folded
into a tree, and the tree becomes the constructor call of a module.
-/
namespace Stencil

open Options

structure Compiled (σ : Type) where
  compiler : σ
  records : List LogRecord
  result : Except CompileFailure (List Char)

/-- A compiler whose state is `σ`: it compiles a source under a configuration, and reports errors
for a name. -/
abbrev Compiler (σ : Type) :=
  σ → Identifier → List Char → BuildConfig → String → Compiled σ

/-- The name that errors are reported for when none is given. -/
def Identifier.defaultName : Identifier → String
  | .literal value => value
  | .deferred => "<template>"

/-- What the compiler is given: an engine for the markup and the names of characters. -/
structure Toolkit where
  engine : MarkupEngine
  names : Template.CharacterNames

namespace Compiler

def compiledRecord (name : String) (tokens : List Char) : LogRecord :=
  ⟨.debug, .compiler, "Compiled " ++ name ++ ": " ++ toString tokens.length ++ " bytes of tokens"⟩

/-- The records and the result for markup that needs no more work. -/
def compileMarkup (names : Template.CharacterNames) (identifier : Identifier)
    (source : List Char) (name : String) : List LogRecord × Except CompileFailure (List Char) :=
  match Tree.tokenize names name source with
  | .error e => ([], .error e)
  | .ok tree =>
    match (Tree.treeJson tree).serialize with
    | some tokens =>
      ([Tree.tokenizedRecord name tree, compiledRecord name tokens],
        .ok (Module.constructorCall identifier tokens))
    | none => ([Tree.tokenizedRecord name tree], .error (.breakdown .tooManyDigits))

/-- The template compiler. Its state is the switches it has reported. -/
def template (tools : Toolkit) : Compiler (List Switch) :=
  fun reported identifier source config name =>
    match config.minify with
    | none =>
      let (records, result) := compileMarkup tools.names identifier source name
      ⟨reported, records, result⟩
    | some o =>
      let minified := Minify.minified tools.engine reported o source
      match minified.result with
      | .error e => ⟨minified.reported, minified.records, .error (.error e)⟩
      | .ok markup =>
        let (records, result) := compileMarkup tools.names identifier markup name
        ⟨minified.reported, minified.records ++ records, result⟩

end Compiler

end Stencil
