import Stencil.Config

/-!
Entries of other names. A document with everything left out that has no known name, also inside its
records, reads the same: as the same options, or as the same complaints.
-/
namespace Stencil.Options

namespace Value

theorem sameKey_text (k : Value) (name : String) :
    k.sameKey (.text name) = true ↔ k = .text name := by
  cases k with
  | number x => cases hx : x.toInt? <;> simp [sameKey, whole?, hx]
  | _ => simp [sameKey, whole?]

def isNamed (names : List String) : Value → Bool
  | .text s => names.contains s
  | _ => false

def named (names : List String) (entries : List (Value × Value)) : List (Value × Value) :=
  entries.filter fun e => e.1.isNamed names

theorem lookup_named {name : String} {names : List String} (h : name ∈ names)
    (entries : List (Value × Value)) :
    lookup name (named names entries) = lookup name entries := by
  have hkept (k : Value) :
      decide (k.isNamed names = true ∧ k.sameKey (.text name) = true) = k.sameKey (.text name) := by
    cases hk : k.sameKey (.text name) with
    | false => simp
    | true =>
      rw [(sameKey_text _ _).mp hk]
      simp [isNamed, h]
  rw [lookup, lookup, named, List.find?_filter]
  simp only [hkept]

end Value

theorem entry?_named {names known : List String} (h : ∀ name ∈ names, name ∈ known)
    (entries : List (Value × Value)) :
    entry? names (Value.named known entries) = entry? names entries := by
  induction names with
  | nil => rfl
  | cons name rest ih =>
    obtain ⟨hname, hrest⟩ := List.forall_mem_cons.mp h
    have hrest' := ih hrest
    simp only [List.findSome?_cons, entry?] at hrest' ⊢
    rw [Value.lookup_named hname, hrest']

def switchNames : List String := Switch.all.flatMap fun s => [s.camelName, s.name]

/-- A document of switches without entries of other names. -/
def knownSwitches : Value → Value
  | .map entries => .map (Value.named switchNames entries)
  | v => v

theorem mem_all (s : Switch) : s ∈ Switch.all := by
  cases s <;> decide

theorem readSwitch_named (entries : List (Value × Value)) :
    readSwitch (Value.named switchNames entries) = readSwitch entries := by
  funext s
  have hnames : ∀ name ∈ [s.camelName, s.name], name ∈ switchNames := fun name h =>
    List.mem_flatMap.mpr ⟨s, mem_all s, h⟩
  rw [readSwitch, entry?_named hnames, readSwitch]

theorem read_knownSwitches (v : Value) :
    MinifyOptions.read (knownSwitches v) = MinifyOptions.read v := by
  cases v with
  | map entries => simp only [knownSwitches, MinifyOptions.read, readSwitch_named]
  | _ => rfl

theorem readChoice_knownSwitches (v : Value) :
    readChoice (knownSwitches v) = readChoice v := by
  have hbool : readBool (knownSwitches v) = readBool v := by cases v <;> rfl
  rw [readChoice, read_knownSwitches, hbool, readChoice]

theorem nullable_knownSwitches (read : Value → Checked α)
    (h : ∀ v, read (knownSwitches v) = read v) (v : Value) :
    nullable read (knownSwitches v) = nullable read v := by
  have hread := h v
  cases v with
  | map entries => simp only [nullable, knownSwitches] at hread ⊢; rw [hread]
  | _ => rfl

/-- A record of extensions without entries of other names. -/
def knownExtensions : Value → Value
  | .map entries => .map (Value.named ["extensions"] entries)
  | v => v

theorem unwrapExtensions_known (v : Value) :
    unwrapExtensions (knownExtensions v) = unwrapExtensions v := by
  cases v with
  | map entries =>
    rw [knownExtensions, unwrapExtensions, Value.lookup_named (List.mem_singleton.mpr rfl)]
    rfl
  | _ => rfl

/-- The value of a field without entries of other names. -/
def knownField (name : String) (v : Value) : Value :=
  if name = "minify" then knownSwitches v
  else if name = "extensions" then knownExtensions v
  else v

/-- Entries without those of other names, at the top and in the records of fields. -/
def knownEntries (names : List String) (entries : List (Value × Value)) :
    List (Value × Value) :=
  (Value.named names entries).map fun e =>
    match e.1 with
    | .text name => (e.1, knownField name e.2)
    | _ => e

theorem lookup_knownEntries {name : String} {names : List String} (h : name ∈ names)
    (entries : List (Value × Value)) :
    Value.lookup name (knownEntries names entries) =
      (Value.lookup name entries).map (knownField name) := by
  rw [← Value.lookup_named h entries, knownEntries]
  generalize Value.named names entries = kept
  induction kept with
  | nil => rfl
  | cons e rest ih =>
    obtain ⟨k, v⟩ := e
    simp only [Value.lookup] at ih ⊢
    by_cases hk : k = .text name
    · subst hk
      have hsame : (Value.text name).sameKey (.text name) = true := (Value.sameKey_text _ _).mpr rfl
      simp [hsame]
    · have hother : k.sameKey (.text name) = false := by
        rw [← Bool.not_eq_true, Value.sameKey_text]
        exact hk
      cases k <;> simpa [hother] using ih

theorem entry?_knownEntries {names known : List String} (h : ∀ name ∈ names, name ∈ known)
    (entries : List (Value × Value)) :
    entry? names (knownEntries known entries) =
      ( entry? names entries).map fun e => (e.1, knownField e.1 e.2) := by
  induction names with
  | nil => rfl
  | cons name rest ih =>
    obtain ⟨hname, hrest⟩ := List.forall_mem_cons.mp h
    have hrest' := ih hrest
    simp only [List.findSome?_cons, entry?] at hrest' ⊢
    rw [lookup_knownEntries hname, hrest']
    cases Value.lookup name entries <;> rfl

/-- A field reads the same if its reader takes no notice of other names. -/
theorem readField_known (names known : List String) (read : Value → Checked α)
    (entries : List (Value × Value)) (h : ∀ name ∈ names, name ∈ known)
    (hread : ∀ name ∈ names, ∀ v, read (knownField name v) = read v) :
    readField names read (knownEntries known entries) = readField names read entries := by
  rw [readField, readField, entry?_knownEntries h]
  cases he : entry? names entries with
  | none => rfl
  | some e =>
    obtain ⟨name, hname, he⟩ := List.exists_of_findSome?_eq_some he
    obtain ⟨v, -, rfl⟩ := Option.map_eq_some_iff.mp he
    simp only [Option.map_some]
    rw [hread name hname]

def optionNames : List String :=
  ["extensions", "minify", "relativePath", "relative_path", "replacePaths", "replace_paths"]

/-- A document of options without entries of other names. -/
def TransformOptions.known : Value → Value
  | .map entries => .map (knownEntries optionNames entries)
  | v => v

theorem TransformOptions.read_known (v : Value) : read (known v) = read v := by
  cases v with
  | map entries =>
    have hextensions := readField_known ["extensions"] optionNames
      (fun v => nullable readTexts (unwrapExtensions v)) entries (by decide)
      (by simp [knownField, unwrapExtensions_known])
    have hminify := readField_known ["minify"] optionNames (nullable readChoice) entries
      (by decide) (by simp [knownField, nullable_knownSwitches readChoice readChoice_knownSwitches])
    have hrelative := readField_known ["relativePath", "relative_path"] optionNames
      (nullable readBool) entries (by decide) (by simp [knownField])
    have hreplace := readField_known ["replacePaths", "replace_paths"] optionNames readAliases
      entries (by decide) (by simp [knownField])
    rw [known, read, read, hextensions, hminify, hrelative, hreplace]
  | _ => rfl

/-- Options read the same without entries of other names. -/
theorem TransformOptions.readOptional_known (v : Value) :
    readOptional (known v) = readOptional v := by
  cases v with
  | map entries => exact read_known (.map entries)
  | _ => rfl

end Stencil.Options

namespace Stencil.BuildConfig

open Options

def fieldNames : List String := ["minify", "relative_path", "replace_paths"]

/-- A configuration reads the same without entries of other names. -/
theorem read_known (entries : List (Value × Value)) :
    read (knownEntries fieldNames entries) = read entries := by
  have hminify := readField_known ["minify"] fieldNames (nullable MinifyOptions.read) entries
    (by decide) (by simp [knownField, nullable_knownSwitches MinifyOptions.read read_knownSwitches])
  have hrelative := readField_known ["relative_path"] fieldNames readBool entries (by decide)
    (by simp [knownField])
  have hreplace := readField_known ["replace_paths"] fieldNames (nullable readPairs) entries
    (by decide) (by simp [knownField])
  rw [read, read, hminify, hrelative, hreplace]

end Stencil.BuildConfig
