import Stencil.Template.Escape

/-!
Why a template is refused. A fault names its cause and the line it is reported for; the wording of
every cause is in one place.
-/
namespace Stencil.Template

open Text

inductive Cause where
  | openComment
  | openRaw
  | strayChar (c : Char) (position : Nat)
  | strayCloser (c : Char)
  | wrongCloser (c expected : Char)
  | badName
  | badEscape (error : EscapeError)
  | endsBefore (wanted : String)
  | mismatch (wanted got : String)
  | unexpected (got : String)
  | noExpression (got : String)
  | noTagName
  | unknownTag (name : String) (wantedOutside : Bool) (wanted : List String)
    (innermost : Option String)
  | openBlock (wanted : List String) (innermost : Option String)
  | hyphenInBlockName
  | requiredBlockHasContent
  | notACall
  | chainedTests
  | noAttribute
  | badArguments
  | missingDefault
  | privateImport
  | notAssignable (form : String)
  deriving DecidableEq, Repr

def alternatives (wanted : List String) : String := " or ".intercalate (wanted.map shown)

def innermostSentence : Option String → List String
  | none => []
  | some tag => ["The innermost block that needs to be closed is " ++ shown tag ++ "."]

def wantedSentence : List String → List String
  | [] => []
  | wanted => ["Jinja was looking for the following tags: " ++ alternatives wanted ++ "."]

def Cause.message : Cause → String
  | .openComment => "Missing end of comment tag"
  | .openRaw => "Missing end of raw directive"
  | .strayChar c position =>
    "unexpected char " ++ shown (String.singleton c) ++ " at " ++ toString position
  | .strayCloser c => "unexpected '" ++ String.singleton c ++ "'"
  | .wrongCloser c expected =>
    "unexpected '" ++ String.singleton c ++ "', expected '" ++ String.singleton expected ++ "'"
  | .badName => "Invalid character in identifier"
  | .badEscape error => error.message
  | .endsBefore wanted => "unexpected end of template, expected " ++ shown wanted ++ "."
  | .mismatch wanted got => "expected token " ++ shown wanted ++ ", got " ++ shown got
  | .unexpected got => "unexpected " ++ shown got
  | .noExpression got => "Expected an expression, got " ++ shown got
  | .noTagName => "tag name expected"
  | .unknownTag name wantedOutside wanted innermost =>
    let hint :=
      if wantedOutside && !wanted.isEmpty then
        ["You probably made a nesting mistake. Jinja is expecting this tag, but currently " ++
          "looking for " ++ alternatives wanted ++ "."]
      else wantedSentence wanted
    " ".intercalate
      (("Encountered unknown tag " ++ shown name ++ ".") :: hint ++ innermostSentence innermost)
  | .openBlock wanted innermost =>
    " ".intercalate
      ("Unexpected end of template." :: wantedSentence wanted ++ innermostSentence innermost)
  | .hyphenInBlockName =>
    "Block names in Jinja have to be valid Python identifiers and may not contain hyphens, use " ++
      "an underscore instead."
  | .requiredBlockHasContent => "Required blocks can only contain comments or whitespace"
  | .notACall => "expected call"
  | .chainedTests => "You cannot chain multiple tests with is"
  | .noAttribute => "expected name or number"
  | .badArguments => "invalid syntax for function call expression"
  | .missingDefault => "non-default argument follows default argument"
  | .privateImport => "names starting with an underline can not be imported"
  | .notAssignable form => "can't assign to " ++ shown form

structure Fault where
  cause : Cause
  line : Nat
  deriving DecidableEq, Repr

/-- Why the pieces of a template cannot be had. Only a fault is a statement about the template that
is reported as such. -/
inductive Failure where
  | fault (f : Fault)
  | tooManyDigits
  | foreignDigit
  | nestedTooDeeply
  deriving DecidableEq, Repr

end Stencil.Template
