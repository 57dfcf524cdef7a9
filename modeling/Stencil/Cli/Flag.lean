import Stencil.Text.Printable

/-!
The flags of the command line, and what is wrong with arguments.
-/
namespace Stencil.Cli

inductive Flag where
  | help
  | output
  | config
  | path
  | relativePath
  | noMinify
  | verbose
  deriving DecidableEq, Repr

namespace Flag

def all : List Flag := [.help, .output, .config, .path, .relativePath, .noMinify, .verbose]

def letter? : Flag → Option Char
  | help => some 'h'
  | output => some 'o'
  | config => some 'c'
  | verbose => some 'v'
  | path | relativePath | noMinify => none

def longName : Flag → String
  | help => "--help"
  | output => "--output"
  | config => "--config"
  | path => "--path"
  | relativePath => "--relative-path"
  | noMinify => "--no-minify"
  | verbose => "--verbose"

def takesValue : Flag → Bool
  | output | config | path => true
  | _ => false

def ofLetter? (c : Char) : Option Flag := all.find? fun f => f.letter? == some c

/-- The flags whose long names begin with a text. -/
def startingWith (start : List Char) : List Flag :=
  all.filter fun f => start.isPrefixOf f.longName.toList

def text (f : Flag) : String :=
  match f.letter? with
  | some c => "-" ++ String.singleton c ++ "/" ++ f.longName
  | none => f.longName

end Flag

inductive ArgumentError where
  | ambiguous (argument : String) (flags : List Flag)
  | noValue (flag : Flag)
  | surplusValue (flag : Flag) (value : List Char)
  | unrecognized (arguments : List String)
  | pathRequired
  deriving DecidableEq, Repr

def ArgumentError.message : ArgumentError → String
  | .ambiguous argument flags =>
    "ambiguous option: " ++ argument ++ " could match " ++
      ", ".intercalate (flags.map Flag.longName)
  | .noValue flag => "argument " ++ flag.text ++ ": expected one argument"
  | .surplusValue flag value =>
    "argument " ++ flag.text ++ ": ignored explicit argument " ++
      Text.shown (String.ofList value)
  | .unrecognized arguments => "unrecognized arguments: " ++ " ".intercalate arguments
  | .pathRequired => "--path is required when reading from stdin"

end Stencil.Cli
