/-!
Errors of a compilation, as they are reported for a file.
-/
namespace Stencil

inductive CompileErrorKind where
  | compile
  | minify
  | tokenize
  deriving DecidableEq, Repr

/-- An error that belongs to a template: the file it is reported for, if it is known, and the line,
which only errors of the template language have. -/
structure CompileError where
  kind : CompileErrorKind
  message : String
  name : Option String
  line : Option Nat
  deriving DecidableEq, Repr

/-- The error as one text: file, message and line. An empty name is left out. -/
def CompileError.text (e : CompileError) : String :=
  let named :=
    match e.name with
    | some name => if name.isEmpty then e.message else name ++ ": " ++ e.message
    | none => e.message
  match e.kind, e.line with
  | .tokenize, some line => named ++ " (line " ++ toString line ++ ")"
  | _, _ => named

/-- The error reported for a file, unless it names one already. -/
def CompileError.withName (e : CompileError) (name : String) : CompileError :=
  { e with name := e.name.or (some name) }

inductive Breakdown where
  | tooManyDigits
  | foreignDigit
  | nestedTooDeeply
  deriving DecidableEq, Repr

inductive CompileFailure where
  | error (e : CompileError)
  | breakdown (b : Breakdown)
  deriving DecidableEq, Repr

end Stencil
