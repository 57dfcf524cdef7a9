import Stencil.ByteStream
import Stencil.Compiler
import Stencil.Options.Extensions
import Stencil.Path

/-!
The transform of one file. A file that is no template passes through as it is. The bytes of a
template are collected; at the end they become one chunk with the compiled module, or an error.
-/
namespace Stencil

open Text Options

inductive TransformState where
  | passthrough
  | buffering
  | finished
  | failed
  | aborted
  deriving DecidableEq, Repr

def TransformState.text : TransformState → String
  | .passthrough => "passthrough"
  | .buffering => "buffering"
  | .finished => "finished"
  | .failed => "failed"
  | .aborted => "aborted"

structure FileTransform where
  path : String
  state : TransformState
  chunks : List Bytes
  deriving DecidableEq, Repr

inductive Operation (ι : Type) where
  | write (chunk : Bytes)
  | finish
  | abort
  | iterate (chunks : List Bytes)
  | stream (source : ByteStream ι) (size : Int) (start : ι)

inductive Request where
  | write
  | finish
  deriving DecidableEq, Repr

inductive TransformError where
  | misuse (request : Request) (state : TransformState)
  | compilation (failure : CompileFailure)
  deriving DecidableEq, Repr

/-- The wording for a request that the state does not allow. -/
def misuseMessage (request : Request) (state : TransformState) : String :=
  match request with
  | .write => "cannot write to a " ++ state.text ++ " transform"
  | .finish => "cannot end a " ++ state.text ++ " transform"

namespace FileTransform

def eligible (t : FileTransform) : Bool := t.state != .passthrough

def passingRecord (path : String) : LogRecord :=
  ⟨.debug, .processor, "Passing " ++ path ++ " through untouched"⟩

def failedRecord (path : String) (e : CompileError) : LogRecord :=
  ⟨.error, .processor, "Failed to compile " ++ path ++ ": " ++ e.text⟩

/-- Opens the transform of a file. If the file is a template, the options are merged into the
configuration; the configuration afterwards and what was reported come with the transform. -/
def opened (path : String) (o : TransformOptions) (config : BuildConfig) :
    FileTransform × BuildConfig × List LogRecord :=
  if Path.isEligible path o.resolveExtensions then
    (⟨path, .buffering, []⟩, config.merge o, [(config.merge o).mergedRecord])
  else (⟨path, .passthrough, []⟩, config, [passingRecord path])

/-- Takes one chunk, and gives what can be passed on at once. -/
def write (t : FileTransform) (chunk : Bytes) :
    Except TransformError (FileTransform × List Bytes) :=
  match t.state with
  | .passthrough => .ok (t, [chunk])
  | .buffering => .ok ({ t with chunks := chunk :: t.chunks }, [])
  | state => .error (.misuse .write state)

def source (t : FileTransform) : List Char := decodeUtf8 t.chunks.reverse.flatten

structure Ended (σ : Type) where
  transform : FileTransform
  compiler : σ
  records : List LogRecord
  result : Except TransformError (List Bytes)

/-- Ends the input. The chunks are given up whatever comes out; only an error that belongs to the
template makes the transform a failed one. -/
def finish (compile : Compiler σ) (t : FileTransform) (compiler : σ) (config : BuildConfig) :
    Ended σ :=
  match t.state with
  | .passthrough => ⟨t, compiler, [], .ok []⟩
  | .buffering =>
    let identifier := Path.identifier t.path config.relativePath config.replacePaths
    let compiled := compile compiler identifier t.source config t.path
    match compiled.result with
    | .ok fragment =>
      ⟨⟨t.path, .finished, []⟩, compiled.compiler, compiled.records,
        .ok [encodeUtf8 (Module.wrap fragment)]⟩
    | .error (.error e) =>
      let e := e.withName t.path
      ⟨⟨t.path, .failed, []⟩, compiled.compiler, compiled.records ++ [failedRecord t.path e],
        .error (.compilation (.error e))⟩
    | .error (.breakdown b) =>
      ⟨⟨t.path, .buffering, []⟩, compiled.compiler, compiled.records,
        .error (.compilation (.breakdown b))⟩
  | state => ⟨t, compiler, [], .error (.misuse .finish state)⟩

def abort (t : FileTransform) : FileTransform := { t with state := .aborted, chunks := [] }

structure Ran (σ : Type) where
  transform : FileTransform
  compiler : σ
  records : List LogRecord
  emitted : List Bytes
  error : Option TransformError

/-- Takes the chunks one by one and then ends the input; the first error stops it. -/
def run (compile : Compiler σ) (t : FileTransform) (compiler : σ) (config : BuildConfig) :
    List Bytes → Ran σ
  | [] =>
    let e := t.finish compile compiler config
    match e.result with
    | .ok out => ⟨e.transform, e.compiler, e.records, out, none⟩
    | .error error => ⟨e.transform, e.compiler, e.records, [], some error⟩
  | chunk :: rest =>
    match t.write chunk with
    | .error error => ⟨t, compiler, [], [], some error⟩
    | .ok (t, out) =>
      let r := run compile t compiler config rest
      { r with emitted := out ++ r.emitted }

def perform (compile : Compiler σ) (t : FileTransform) (compiler : σ) (config : BuildConfig) :
    Operation ι → Ran σ
  | .write chunk =>
    match t.write chunk with
    | .ok (t, out) => ⟨t, compiler, [], out, none⟩
    | .error e => ⟨t, compiler, [], [], some e⟩
  | .finish => t.run compile compiler config []
  | .abort => ⟨t.abort, compiler, [], [], none⟩
  | .iterate chunks => t.run compile compiler config chunks
  | .stream source size start => t.run compile compiler config (source.pieces size start)

end FileTransform

end Stencil
