import Stencil.Text.Printable
import Stencil.Text.Utf8

/-!
The files and streams that a command works on, and why a file cannot be opened.
-/
namespace Stencil.Cli

open Text

inductive FileFault where
  | missing
  | directory
  | noDirectory
  | other (code : Nat) (text : String)
  deriving DecidableEq, Repr

def FileFault.code : FileFault → Nat
  | .missing => 2
  | .directory => 21
  | .noDirectory => 20
  | .other code _ => code

def FileFault.text : FileFault → String
  | .missing => "No such file or directory"
  | .directory => "Is a directory"
  | .noDirectory => "Not a directory"
  | .other _ text => text

def FileFault.message (f : FileFault) (path : String) : String :=
  "[Errno " ++ toString f.code ++ "] " ++ f.text ++ ": " ++ shown path

inductive OpenError where
  | fault (f : FileFault)
  | nullCharacter
  deriving DecidableEq, Repr

/-- What a command may do with files and streams. An open file goes by its handle. -/
structure Access (Handle : Type) (m : Type → Type) where
  openFile : String → m (Except FileFault Handle)
  readFile : Handle → m Bytes
  /-- Opens a file for writing: it is there afterwards, and empty. -/
  emptyFile : String → m (Except FileFault Handle)
  addToFile : Handle → Bytes → m Unit
  readInput : m Bytes
  addToOutput : Bytes → m Unit

def hasNull (path : String) : Bool := path.toList.contains (Char.ofNat 0)

def tried {m : Type → Type} [Monad m] {α : Type} (path : String) (action : m (Except FileFault α)) :
    m (Except OpenError α) := do
  if hasNull path then return .error .nullCharacter
  else return (← action).mapError .fault

end Stencil.Cli
