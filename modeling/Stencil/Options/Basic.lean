import Stencil.Options.Switch

/-!
Options of a transform. Every field may be left out, and a field that is supplied may be null;
only supplied fields have an effect on the configuration.
-/
namespace Stencil.Options

inductive MinifyChoice where
  | settings (o : MinifyOptions)
  | flag (b : Bool)

/-- Path fragments and what replaces them, in the order of declaration. -/
abbrev Aliases := List (String × String)

structure TransformOptions where
  extensions : Option (Option (List String)) := none
  minify : Option (Option MinifyChoice) := none
  relativePath : Option (Option Bool) := none
  replacePaths : Option (Option Aliases) := none

def nullable (read : Value → Checked α) : Value → Checked (Option α)
  | .null => .ok none
  | v => (read v).map some

/-- Reads a text; bytes stand for the text that they encode. -/
def readText : Value → Checked String
  | .text s => .ok s
  | .bytes b =>
    match Text.decodeUtf8? b with
    | some s => .ok (String.ofList s)
    | none => .fail .undecodable
  | _ => .fail .noText

def readTexts : Value → Checked (List String)
  | .list items | .tuple items | .set items =>
    .all (items.zipIdx.map fun (v, n) => (readText v).under (.index n))
  | _ => .fail .noList

/-- The list of extensions in what was supplied for it: a text counts as nothing, and a record
carries the list in a field of its own. -/
def unwrapExtensions : Value → Value
  | .text _ => .null
  | .map entries => (Value.lookup "extensions" entries).getD .null
  | v => v

/-- Adds an alias: a fragment that is there keeps its place and takes the new replacement. -/
def insertAlias (search replacement : String) : Aliases → Aliases
  | [] => [(search, replacement)]
  | (s, r) :: rest =>
    if s = search then (s, replacement) :: rest else (s, r) :: insertAlias search replacement rest

/-- Reads aliases from a mapping by the texts of its keys and values; anything but a mapping turns
aliases off. -/
def readAliases : Value → Checked (Option Aliases)
  | .map entries =>
    match entries.mapM fun (k, v) => do some (← k.text?, ← v.text?) with
    | some pairs => .ok (some (pairs.foldl (fun done (s, r) => insertAlias s r done) []))
    | none => .fail .tooManyDigits
  | _ => .ok none

/-- Reads the choice of minification. If neither reading succeeds, both say why. -/
def readChoice (v : Value) : Checked MinifyChoice :=
  match MinifyOptions.read v, readBool v with
  | .ok o, _ => .ok (.settings o)
  | .error _, .ok b => .ok (.flag b)
  | .error i, .error j =>
    .error (i.map (Issue.under (.key RecordKind.minify.text)) ++ j.map (Issue.under (.key "bool")))

def readField (names : List String) (read : Value → Checked α) (entries : List (Value × Value)) :
    Checked (Option α) :=
  match entry? names entries with
  | none => .ok none
  | some (key, v) => ((read v).under (.key key)).map some

/-- Reads options; entries of other names do not matter. -/
def TransformOptions.read : Value → Checked TransformOptions
  | .map entries =>
    let extensions :=
      readField ["extensions"] (fun v => nullable readTexts (unwrapExtensions v)) entries
    let minify := readField ["minify"] (nullable readChoice) entries
    let relativePath := readField ["relativePath", "relative_path"] (nullable readBool) entries
    let replacePaths := readField ["replacePaths", "replace_paths"] readAliases entries
    (extensions.both (minify.both (relativePath.both replacePaths))).map
      fun (extensions, minify, relativePath, replacePaths) =>
        { extensions, minify, relativePath, replacePaths }
  | _ => .fail (.noRecord .transform)

def TransformOptions.readOptional : Value → Checked TransformOptions
  | .null => .ok {}
  | v => TransformOptions.read v

namespace TransformOptions

def dumpField (name : String) (dump : α → Value) : Option (Option α) → List (Value × Value)
  | none => []
  | some none => [(.text name, .null)]
  | some (some a) => [(.text name, dump a)]

def dumpChoice : MinifyChoice → Value
  | .settings o => o.dump
  | .flag b => .bool b

def dumpAliases (aliases : Aliases) : Value :=
  .map (aliases.map fun (s, r) => (.text s, .text r))

/-- The entries of a document that supplies the same fields. -/
def dumpEntries (o : TransformOptions) : List (Value × Value) :=
  dumpField "extensions" (fun es => .list (es.map .text)) o.extensions ++
    dumpField "minify" dumpChoice o.minify ++
    dumpField "relative_path" .bool o.relativePath ++
    dumpField "replace_paths" dumpAliases o.replacePaths

def dump (o : TransformOptions) : Value := .map o.dumpEntries

end TransformOptions

end Stencil.Options
