import Stencil.Cli.Run
import Stencil.Markup.Writer

/-!
The command line program: the files and streams of the system, and the texts that a user sees. What
is done with them is decided elsewhere.
-/
namespace Stencil.Cli

open Text

def bytesOf (b : ByteArray) : Bytes := b.toList

def arrayOf (b : Bytes) : ByteArray := ⟨b.toArray⟩

def faultOf : IO.Error → FileFault
  | .noFileOrDirectory .. => .missing
  | .inappropriateType _ code _ => if code = 20 then .noDirectory else .directory
  | .permissionDenied .. => .other 13 "Permission denied"
  | e => .other 5 (toString e)

def attempt (action : IO α) : IO (Except FileFault α) := do
  try
    return .ok (← action)
  catch e => return .error (faultOf e)

partial def readAll (stream : IO.FS.Stream) (done : ByteArray) : IO ByteArray := do
  let chunk ← stream.read 65536
  if chunk.isEmpty then return done else readAll stream (done ++ chunk)

def systemAccess : Access IO.FS.Handle IO where
  openFile path := do
    if ← (System.mkFilePath [path]).isDir then return .error .directory
    else attempt (IO.FS.Handle.mk path .read)
  readFile file := return bytesOf (← file.readBinToEnd)
  emptyFile path := attempt (IO.FS.Handle.mk path .write)
  addToFile file bytes := do
    file.write (arrayOf bytes)
    file.flush
  readInput := return bytesOf (← readAll (← IO.getStdin) ByteArray.empty)
  addToOutput bytes := do
    let output ← IO.getStdout
    output.write (arrayOf bytes)
    output.flush

/-- The status that a run ends with; a crash counts as a failure. -/
def Ending.code : Ending → UInt32
  | .status n => n.toUInt32
  | .crash _ => 1

end Stencil.Cli

open Stencil Cli in
/-- Runs the command. Characters have no names here. -/
def main (arguments : List String) : IO UInt32 := do
  let outcome ← run systemAccess ⟨Markup.shrink, fun _ => none⟩ arguments
  for notice in outcome.notices do IO.eprintln notice.text
  if let .crash _ := outcome.ending then IO.eprintln (commandName ++ ": the run broke down")
  return outcome.ending.code
