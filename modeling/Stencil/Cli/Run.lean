import Stencil.Cli.Access
import Stencil.Cli.Arguments
import Stencil.Options.File
import Stencil.Transform

/-!
One run of the command: arguments, options, files, and the status it ends with. The output is
emptied before the input is read, so a file that is both is lost.
-/
namespace Stencil.Cli

open Text Options

def commandName : String := "jinjify"

def helpText : String :=
  "\n".intercalate
    ["usage: jinjify [-h] [-o OUTPUT] [-c CONFIG] [--path PATH] [--relative-path]",
      "               [--no-minify] [-v]",
      "               [input]",
      "",
      "Precompile a template into a CommonJS module.",
      "",
      "positional arguments:",
      "  input                 Template file path or '-' for stdin",
      "",
      "options:",
      "  -h, --help            show this help message and exit",
      "  -o OUTPUT, --output OUTPUT",
      "                        Output file path or '-' for stdout",
      "  -c CONFIG, --config CONFIG",
      "                        YAML file with transform options",
      "  --path PATH           Path used for extension matching and the template id",
      "  --relative-path       Register the template under __filename at load time",
      "  --no-minify           Disable markup minification",
      "  -v, --verbose         Log debug output",
      ""]

inductive Crash where
  | document (f : Yaml.Failure)
  | breakdown (b : Breakdown)
  | nullCharacter
  deriving DecidableEq, Repr

inductive Ending where
  | status (n : Nat)
  | crash (c : Crash)
  deriving DecidableEq, Repr

inductive Notice where
  | wrongArguments (e : ArgumentError)
  | record (r : LogRecord)
  deriving DecidableEq, Repr

def Notice.text : Notice → String
  | .wrongArguments e => commandName ++ ": error: " ++ e.message
  | .record r => r.level.text ++ " " ++ r.source.text ++ " - " ++ r.message

structure Outcome where
  ending : Ending
  notices : List Notice := []
  deriving DecidableEq, Repr

def Outcome.wrong (e : ArgumentError) : Outcome := ⟨.status 2, [.wrongArguments e]⟩

def Outcome.reported (verbose : Bool) (ending : Ending) (records : List LogRecord) : Outcome :=
  ⟨ending, (records.filter (·.shownAt verbose)).map .record⟩

inductive LoadError where
  | opening (e : OpenError) (path : String)
  | content (e : FileError)

/-- What is reported of options that could not be loaded; only faults are told in detail. -/
def invalidRecord (detail : Option String) : LogRecord :=
  ⟨.error, .cli, "Invalid options" ++ (detail.map (": " ++ ·)).getD ""⟩

def faultRecord (f : FileFault) (path : String) : LogRecord :=
  ⟨.error, .cli, "I/O error: " ++ f.message path⟩

def LoadError.outcome : LoadError → Outcome
  | .opening (.fault f) path => .reported false (.status 2) [invalidRecord (some (f.message path))]
  | .opening .nullCharacter _ => .reported false (.status 2) [invalidRecord none]
  | .content (.document .malformed) | .content (.document .unreadable) | .content .undecodable
  | .content (.options _) => .reported false (.status 2) [invalidRecord none]
  | .content (.document f) => ⟨.crash (.document f), []⟩

def OpenError.outcome (verbose : Bool) (path : String) : OpenError → Outcome
  | .fault f => .reported verbose (.status 2) [faultRecord f path]
  | .nullCharacter => ⟨.crash .nullCharacter, []⟩

namespace Arguments

/-- A text that is given and not empty. -/
def given (s : Option String) : Option String := s.filter (!·.isEmpty)

/-- The path that the template goes by. -/
def templatePath (a : Arguments) : String := (given a.path).getD a.input

/-- Options with the effect of the flags: the document of the options, changed by the flags and
read again. -/
def withFlags (a : Arguments) (o : TransformOptions) : Checked TransformOptions :=
  let entries := o.dumpEntries
  let entries :=
    if a.relativePath then Value.insertEntry (.text "relative_path") (.bool true) entries
    else entries
  let entries :=
    if a.noMinify then Value.insertEntry (.text "minify") (.bool false) entries else entries
  TransformOptions.read (.map entries)

end Arguments

variable {Handle : Type} {m : Type → Type} [Monad m]

def loadOptions (access : Access Handle m) (config : Option String) :
    m (Except LoadError TransformOptions) := do
  match Arguments.given config with
  | none => return .ok {}
  | some path =>
    match ← tried path (access.openFile path) with
    | .error e => return .error (.opening e path)
    | .ok file => return (TransformOptions.ofFile (← access.readFile file)).mapError .content

def buildOptions (access : Access Handle m) (a : Arguments) :
    m (Except LoadError TransformOptions) := do
  match ← loadOptions access a.config with
  | .error e => return .error e
  | .ok o => return (a.withFlags o).mapError fun issues => .content (.options issues)

def isStream (path : String) : Bool := path == "-"

def openInput (access : Access Handle m) (path : String) :
    m (Except OpenError (Option Handle)) := do
  if isStream path then return .ok none
  else return (← tried path (access.openFile path)).map some

def openOutput (access : Access Handle m) (path : String) :
    m (Except OpenError (Option Handle)) := do
  if isStream path then return .ok none
  else return (← tried path (access.emptyFile path)).map some

def readInput (access : Access Handle m) : Option Handle → m Bytes
  | none => access.readInput
  | some file => access.readFile file

def addToOutput (access : Access Handle m) (bytes : Bytes) : Option Handle → m Unit
  | none => access.addToOutput bytes
  | some file => access.addToFile file bytes

def chunkSize : Int := 65536

def endingOf : Option TransformError → Ending
  | some (.compilation (.breakdown b)) => .crash (.breakdown b)
  | some _ => .status 1
  | none => .status 0

def transform (access : Access Handle m) (tools : Toolkit) (a : Arguments)
    (o : TransformOptions) : m Outcome := do
  match ← openInput access a.input with
  | .error e => return e.outcome a.verbose a.input
  | .ok source =>
    match ← openOutput access a.output with
    | .error e => return e.outcome a.verbose a.output
    | .ok target =>
      let (t, config, records) := FileTransform.opened a.templatePath o {}
      let chunks := ByteStream.inMemory.pieces chunkSize (← readInput access source)
      let ran := t.run (Compiler.template tools) [] config chunks
      addToOutput access ran.emitted.flatten target
      return .reported a.verbose (endingOf ran.error) (records ++ ran.records)

def run (access : Access Handle m) (tools : Toolkit) (arguments : List String) : m Outcome := do
  match readArguments arguments with
  | .error e => return .wrong e
  | .ok .help => do
    access.addToOutput (encodeUtf8 helpText.toList)
    return ⟨.status 0, []⟩
  | .ok (.run a) =>
    if isStream a.templatePath then return .wrong .pathRequired
    else
      match ← buildOptions access a with
      | .error e => return e.outcome
      | .ok o => transform access tools a o

end Stencil.Cli
