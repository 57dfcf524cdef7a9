import Stencil.Log
import Stencil.Options.Basic

/-!
The configuration that templates are compiled against. Options are merged into it one after the
other, and in each field the last one that says something wins.
-/
namespace Stencil

open Options

attribute [local instance (high)] instPowNat

/-- What a template is compiled against: how its markup is minified, whether its name is left to the
module loader, and the aliases for its path. -/
structure BuildConfig where
  minify : Option MinifyOptions := some .default
  relativePath : Bool := false
  replacePaths : Option Aliases := none

namespace BuildConfig

/-- The setting of minification after a choice. Only settings switch it on; both plain answers
switch it off, and null leaves it alone. -/
def mergeMinify (minify : Option MinifyOptions) :
    Option (Option MinifyChoice) → Option MinifyOptions
  | some (some (.settings o)) => some o
  | some (some (.flag _)) => none
  | _ => minify

/-- The configuration with options merged into it. Aliases are replaced whenever they are supplied,
by null as well. -/
def merge (c : BuildConfig) (o : TransformOptions) : BuildConfig :=
  ⟨mergeMinify c.minify o.minify, (o.relativePath.bind id).getD c.relativePath,
    o.replacePaths.getD c.replacePaths⟩

def mergedRecord (c : BuildConfig) : LogRecord :=
  let aliases :=
    match c.replacePaths with
    | none => "None"
    | some pairs =>
      let entries := pairs.map fun (s, r) => Text.shown s ++ ": " ++ Text.shown r
      "\x7b" ++ ", ".intercalate entries ++ "\x7d"
  ⟨.debug, .config,
    "Build config now minify=" ++ Value.boolText c.minify.isSome ++ " relative_path=" ++
      Value.boolText c.relativePath ++ " replace_paths=" ++ aliases⟩

/-- The step to the value of an alias, by the key it stands under. -/
def keyStep : Value → Step
  | .text s => .key s
  | .integer n => if -2 ^ (63 : Nat) ≤ n ∧ n < 2 ^ (63 : Nat) then .index n else .key (toString n)
  | .bool b => .index (if b then 1 else 0)
  | v => .key (v.shown?.getD "")

def readPair (key value : Value) : Checked (String × String) :=
  (((readText key).under (.key "[key]")).both (readText value)).under (keyStep key)

def readPairs : Value → Checked Aliases
  | .map entries =>
    (Checked.all (entries.map fun (k, v) => readPair k v)).map fun pairs =>
      pairs.foldl (fun done (s, r) => insertAlias s r done) []
  | _ => .fail .noMapping

/-- Reads a configuration from its entries; others do not matter. -/
def read (entries : List (Value × Value)) : Checked BuildConfig :=
  let minify := readField ["minify"] (nullable MinifyOptions.read) entries
  let relativePath := readField ["relative_path"] readBool entries
  let replacePaths := readField ["replace_paths"] (nullable readPairs) entries
  (minify.both (relativePath.both replacePaths)).map fun (minify, relativePath, replacePaths) =>
    ⟨minify.getD (some .default), relativePath.getD false, replacePaths.getD none⟩

end BuildConfig

end Stencil
