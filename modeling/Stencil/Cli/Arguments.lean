import Stencil.Cli.Flag
import Stencil.Text.Word

/-!
Reading the arguments of the command line. Long names may be shortened as long as they fit one flag
only; letters may stand together behind one hyphen, the last one with its value. Behind `--` nothing
is a flag.
-/
namespace Stencil.Cli

open Text

structure Arguments where
  input : String := "-"
  output : String := "-"
  config : Option String := none
  path : Option String := none
  relativePath : Bool := false
  noMinify : Bool := false
  verbose : Bool := false
  deriving DecidableEq, Repr

inductive Looks where
  | plain
  | letter (flag : Flag) (attached : Option (List Char))
  | long (flag : Flag) (attached : Option (List Char))
  | unknown
  deriving DecidableEq, Repr

def isNegativeNumber : List Char → Bool
  | '-' :: rest =>
    let part := rest.dropWhile isDecimal
    match part with
    | [] => !rest.isEmpty
    | '.' :: digits => !digits.isEmpty && digits.all isDecimal
    | _ => false
  | _ => false

/-- An argument that names no flag; a negative number or a text with spaces is no attempt at one. -/
def unnamed (argument : List Char) : Looks :=
  if isNegativeNumber argument || argument.contains ' ' then .plain else .unknown

def splitValue (argument : List Char) : List Char × Option (List Char) :=
  let name := argument.takeWhile (· != '=')
  (name, if argument.contains '=' then some (argument.drop (name.length + 1)) else none)

/-- The looks of an argument that begins with two hyphens. -/
def longLooks (argument : List Char) : Except ArgumentError Looks :=
  let (name, attached) := splitValue argument
  match Flag.all.find? fun f => f.longName.toList == name with
  | some flag => .ok (.long flag attached)
  | none =>
    match Flag.startingWith name with
    | [] => .ok (unnamed argument)
    | [flag] => .ok (.long flag attached)
    | flags => .error (.ambiguous (String.ofList argument) flags)

def looks (argument : List Char) : Except ArgumentError Looks :=
  match argument with
  | '-' :: '-' :: _ => longLooks argument
  | '-' :: c :: rest =>
    match Flag.ofLetter? c, rest with
    | some flag, [] => .ok (.letter flag none)
    | some flag, '=' :: value => .ok (.letter flag (some value))
    | some flag, attached => .ok (.letter flag (some attached))
    | none, _ => .ok (unnamed argument)
  | _ => .ok .plain

inductive Wanted where
  | nothing
  | given (flag : Flag) (value : List Char)
  | awaited (flag : Flag)

abbrev Cluster := List Flag × Wanted

def bare (flag : Flag) : Cluster :=
  if flag.takesValue then ([], .awaited flag) else ([flag], .nothing)

/-- A letter and what is attached to it: the value of its flag, or more letters. -/
def cluster (flag : Flag) : List Char → Except ArgumentError Cluster
  | [] => .ok (bare flag)
  | c :: rest =>
    if flag.takesValue then .ok ([], .given flag (c :: rest))
    else
      match Flag.ofLetter? c with
      | some next => (cluster next rest).map fun (flags, wanted) => (flag :: flags, wanted)
      | none => .error (.surplusValue flag (c :: rest))

def withValue (flag : Flag) (value : List Char) : Except ArgumentError Cluster :=
  if flag.takesValue then .ok ([], .given flag value) else .error (.surplusValue flag value)

def Looks.cluster? : Looks → Option (Except ArgumentError Cluster)
  | .plain | .unknown => none
  | .letter flag none | .long flag none => some (.ok (bare flag))
  | .letter flag (some []) => some (withValue flag [])
  | .letter flag (some attached) => some (cluster flag attached)
  | .long flag (some value) => some (withValue flag value)

structure Progress where
  arguments : Arguments := {}
  hasInput : Bool := false
  justInput : Bool := false
  /-- Arguments that nothing is done with, latest first. -/
  surplus : List String := []

namespace Progress

def takePlain (p : Progress) (argument : String) : Progress :=
  if p.hasInput then { p with surplus := argument :: p.surplus, justInput := false }
  else
    { p with
      arguments := { p.arguments with input := argument }
      hasInput := true
      justInput := true }

def drop (p : Progress) (argument : String) : Progress :=
  { p with surplus := argument :: p.surplus, justInput := false }

def switchOn (p : Progress) (flag : Flag) : Progress :=
  let a := p.arguments
  { p with
    justInput := false
    arguments :=
      match flag with
      | .relativePath => { a with relativePath := true }
      | .noMinify => { a with noMinify := true }
      | .verbose => { a with verbose := true }
      | _ => a }

/-- Gives a flag its value; the last one counts. -/
def set (p : Progress) (flag : Flag) (value : String) : Progress :=
  let a := p.arguments
  { p with
    justInput := false
    arguments :=
      match flag with
      | .output => { a with output := value }
      | .config => { a with config := some value }
      | .path => { a with path := some value }
      | _ => a }

/-- Takes `--` and what follows it. The mark itself is in the way only when the input was given, and
not just before it. -/
def takeRest (p : Progress) (rest : List String) : Progress :=
  let p := if p.hasInput && !p.justInput then p.drop "--" else p
  rest.foldl takePlain p

end Progress

inductive Reply where
  | help
  | run (arguments : Arguments)
  deriving DecidableEq, Repr

/-- Arguments with their looks, up to `--`, and what follows it if it is there. -/
def inspect : List String → Except ArgumentError (List (String × Looks) × Option (List String))
  | [] => .ok ([], none)
  | argument :: rest =>
    if argument = "--" then .ok ([], some rest)
    else
      match looks argument.toList, inspect rest with
      | .error e, _ => .error e
      | .ok _, .error e => .error e
      | .ok l, .ok (others, behind) => .ok ((argument, l) :: others, behind)

/-- Reads arguments one by one; help is given as soon as it is asked for. -/
def follow (p : Progress) : List (String × Looks) → Except ArgumentError (Option Progress)
  | [] => .ok (some p)
  | (argument, l) :: rest =>
    match l.cluster? with
    | none =>
      follow (if l = .unknown then p.drop argument else p.takePlain argument) rest
    | some (.error e) => .error e
    | some (.ok (flags, wanted)) =>
      match wanted, rest with
      | .awaited flag, (value, .plain) :: rest =>
        if flags.contains .help then .ok none
        else follow ((flags.foldl Progress.switchOn p).set flag value) rest
      | .awaited flag, _ => .error (.noValue flag)
      | .given flag value, rest =>
        if flags.contains .help then .ok none
        else follow ((flags.foldl Progress.switchOn p).set flag (String.ofList value)) rest
      | .nothing, rest =>
        if flags.contains .help then .ok none
        else follow (flags.foldl Progress.switchOn p) rest

def readArguments (arguments : List String) : Except ArgumentError Reply := do
  let (words, behind) ← inspect arguments
  match ← follow {} words with
  | none => return .help
  | some p =>
    let p := (behind.map p.takeRest).getD p
    if p.surplus.isEmpty then return .run p.arguments
    else .error (.unrecognized p.surplus.reverse)

end Stencil.Cli
