import Stencil.Number.Double
import Stencil.Text.Units

/-!
The symbols of the expression language, which stand between the delimiters of a template.
-/
namespace Stencil.Template

open Number Text

inductive Operator where
  | add | sub | div | floordiv | mul | mod | pow | tilde
  | lbracket | rbracket | lparen | rparen | lbrace | rbrace
  | eq | ne | gt | gteq | lt | lteq
  | assign | dot | colon | pipe | comma | semicolon
  deriving DecidableEq, Repr

namespace Operator

/-- All operators, those of two characters first, so that the first one that fits is the longest. -/
def all : List Operator :=
  [.floordiv, .pow, .eq, .ne, .gteq, .lteq, .add, .sub, .div, .mul, .mod, .tilde, .lbracket,
    .rbracket, .lparen, .rparen, .lbrace, .rbrace, .gt, .lt, .assign, .dot, .colon, .pipe, .comma,
    .semicolon]

def text : Operator → String
  | .add => "+" | .sub => "-" | .div => "/" | .floordiv => "//" | .mul => "*" | .mod => "%"
  | .pow => "**" | .tilde => "~" | .lbracket => "[" | .rbracket => "]" | .lparen => "("
  | .rparen => ")" | .lbrace => "\x7b" | .rbrace => "\x7d" | .eq => "==" | .ne => "!="
  | .gt => ">" | .gteq => ">=" | .lt => "<" | .lteq => "<=" | .assign => "=" | .dot => "."
  | .colon => ":" | .pipe => "|" | .comma => "," | .semicolon => ";"

def label : Operator → String
  | .add => "add" | .sub => "sub" | .div => "div" | .floordiv => "floordiv" | .mul => "mul"
  | .mod => "mod" | .pow => "pow" | .tilde => "tilde" | .lbracket => "lbracket"
  | .rbracket => "rbracket" | .lparen => "lparen" | .rparen => "rparen" | .lbrace => "lbrace"
  | .rbrace => "rbrace" | .eq => "eq" | .ne => "ne" | .gt => "gt" | .gteq => "gteq" | .lt => "lt"
  | .lteq => "lteq" | .assign => "assign" | .dot => "dot" | .colon => "colon" | .pipe => "pipe"
  | .comma => "comma" | .semicolon => "semicolon"

end Operator

inductive Word where
  | name (s : String)
  | string (value : Units)
  | integer (n : Nat)
  | float (x : Double)
  | operator (op : Operator)
  deriving DecidableEq, Repr

namespace Word

def label : Word → String
  | .name _ => "name"
  | .string _ => "string"
  | .integer _ => "integer"
  | .float _ => "float"
  | .operator op => op.label

/-- How a message refers to a word: names and operators by their text, the rest by kind. -/
def description : Word → String
  | .name s => s
  | .operator op => op.text
  | w => w.label

end Word

structure Symbol where
  line : Nat
  word : Word
  deriving DecidableEq, Repr

end Stencil.Template
