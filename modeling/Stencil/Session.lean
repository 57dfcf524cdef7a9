import Stencil.Transform

/-!
Sessions: any number of configurations, factories and files, and steps that work on them. Files that
share a factory share its compiler, and files that share a configuration see each other's merges.
-/
namespace Stencil.Session

open Text Options

structure Factory where
  options : TransformOptions
  config : Nat
  compiler : Nat

structure OpenFile where
  transform : FileTransform
  config : Nat
  compiler : Nat

/-- Everything that lives in a session. Configurations and compilers are numbered in the order in
which they were made; configuration 0 is the one shared by default. -/
structure World where
  configs : Nat → BuildConfig := fun _ => {}
  configCount : Nat := 1
  configNames : String → Option Nat := fun _ => none
  compilers : Nat → List Switch := fun _ => []
  compilerCount : Nat := 0
  factories : String → Option Factory := fun _ => none
  files : String → Option OpenFile := fun _ => none

def update [DecidableEq ι] (f : ι → α) (i : ι) (a : α) : ι → α := fun j => if j = i then a else f j

@[simp] theorem update_same [DecidableEq ι] (f : ι → α) (i : ι) (a : α) : update f i a i = a := by
  simp [update]

@[simp] theorem update_other [DecidableEq ι] (f : ι → α) {i j : ι} (a : α) (h : j ≠ i) :
    update f i a j = f j := by
  simp [update, h]

inductive Opening where
  | factory (name : String)
  | single (options : Value)
  | direct (options : Option Value)

inductive Step where
  | newConfig (name : String) (entries : List (Value × Value))
  | merge (config : String) (options : Value)
  | reset (config : Option String)
  | newFactory (name : String) (options : Value) (config : Option String)
  | openFile (name path : String) (opening : Opening) (config : Option String)
  | write (file : String) (chunk : Bytes)
  | finish (file : String)
  | abort (file : String)
  | iterate (file : String) (chunks : List Bytes)
  | stream (file : String) (data : Bytes) (chunkSize : Int)

inductive StepError where
  | badConfig (issues : List Issue)
  | badOptions (issues : List Issue)
  | unknown (name : String)
  | transform (e : TransformError)

structure Answer where
  emitted : List Bytes := []
  error : Option StepError := none
  records : List LogRecord := []

namespace World

def configNumber (w : World) : Option String → Option Nat
  | none => some 0
  | some "shared" => some 0
  | some name => w.configNames name

/-- A world with one more configuration under a name. -/
def addConfig (w : World) (name : String) (c : BuildConfig) : World :=
  { w with
    configs := update w.configs w.configCount c
    configCount := w.configCount + 1
    configNames := update w.configNames name (some w.configCount) }

def setConfig (w : World) (n : Nat) (c : BuildConfig) : World :=
  { w with configs := update w.configs n c }

/-- A world with one more compiler, which has reported nothing yet. -/
def addCompiler (w : World) : World :=
  { w with
    compilers := update w.compilers w.compilerCount []
    compilerCount := w.compilerCount + 1 }

def findConfig (w : World) (config : Option String) : Except StepError Nat :=
  match w.configNumber config with
  | none => .error (.unknown (config.getD "shared"))
  | some n => .ok n

def readOptions (options : Value) : Except StepError TransformOptions :=
  (TransformOptions.readOptional options).mapError .badOptions

/-- Options bound to a configuration, with a compiler of their own. -/
def bound (w : World) (options : Value) (config : Option String) :
    Except StepError (World × Factory) := do
  let n ← w.findConfig config
  let o ← readOptions options
  return (w.addCompiler, ⟨o, n, w.compilerCount⟩)

/-- The factory that opens a file: one that was made before, or one for this file alone. -/
def origin (w : World) (config : Option String) : Opening → Except StepError (World × Factory)
  | .factory name =>
    match w.factories name with
    | none => .error (.unknown name)
    | some f => .ok (w, f)
  | .single options => w.bound options config
  | .direct options => w.bound (options.getD .null) config

def openWith (w : World) (name path : String) (factory : Factory) : World × Answer :=
  let (t, c, records) := FileTransform.opened path factory.options (w.configs factory.config)
  ({ w.setConfig factory.config c with
      files := update w.files name (some ⟨t, factory.config, factory.compiler⟩) }, { records })

def afterRun (w : World) (name : String) (f : OpenFile) (r : FileTransform.Ran (List Switch)) :
    World :=
  { w with
    files := update w.files name (some { f with transform := r.transform })
    compilers := update w.compilers f.compiler r.compiler }

def runAnswer (r : FileTransform.Ran (List Switch)) : Answer :=
  { emitted := r.emitted, error := r.error.map .transform, records := r.records }

/-- What comes of an operation on a file, with its compiler and under its configuration. -/
def performed (tools : Toolkit) (w : World) (f : OpenFile) (operation : Operation Bytes) :
    FileTransform.Ran (List Switch) :=
  f.transform.perform (Compiler.template tools) (w.compilers f.compiler) (w.configs f.config)
    operation

def operate (tools : Toolkit) (w : World) (name : String) (operation : Operation Bytes) :
    Except StepError (World × Answer) :=
  match w.files name with
  | none => .error (.unknown name)
  | some f =>
    let r := w.performed tools f operation
    .ok (w.afterRun name f r, runAnswer r)

/-- The world and the answer after a step that can be taken, or why it cannot. -/
def attempt (tools : Toolkit) (w : World) : Step → Except StepError (World × Answer)
  | .newConfig name entries => do
    let c ← (BuildConfig.read entries).mapError .badConfig
    return (w.addConfig name c, {})
  | .merge config options => do
    let n ← w.findConfig (some config)
    let o ← readOptions options
    let c := (w.configs n).merge o
    return (w.setConfig n c, { records := [c.mergedRecord] })
  | .reset config => do
    let n ← w.findConfig config
    return (w.setConfig n {}, {})
  | .newFactory name options config => do
    let (w, f) ← w.bound options config
    return ({ w with factories := update w.factories name (some f) }, {})
  | .openFile name path opening config => do
    let (w, f) ← w.origin config opening
    return w.openWith name path f
  | .write file chunk => w.operate tools file (.write chunk)
  | .finish file => w.operate tools file .finish
  | .abort file => w.operate tools file .abort
  | .iterate file chunks => w.operate tools file (.iterate chunks)
  | .stream file data chunkSize => w.operate tools file (.stream .inMemory chunkSize data)

/-- One step. A step that cannot be taken leaves the world as it is. -/
def step (tools : Toolkit) (w : World) (s : Step) : World × Answer :=
  match w.attempt tools s with
  | .ok result => result
  | .error e => (w, { error := some e })

end World

end Stencil.Session
