import Mathlib.Data.List.Nodup
import Stencil.Options.File
import Stencil.Proofs.Options.Known
import Stencil.Proofs.Result

/-!
Options and the documents that they are written to. A document describes options if each field that
was supplied stands in it under its name in lower case, and nothing stands where another one would
be looked for; then it is read as just these options. The document that options are written to
describes them, and goes on describing them when one of its entries is replaced.
-/
namespace Stencil.Options

theorem findSome?_single [DecidableEq α] {a : α} {xs : List α} (h : a ∈ xs) (b : Option β) :
    xs.findSome? (fun x => if x = a then b else none) = b := by
  cases b with
  | none => simp
  | some c =>
    induction xs with
    | nil => cases h
    | cons x rest ih =>
      rw [List.findSome?_cons]
      by_cases hx : x = a
      · rw [if_pos hx]
      · rw [if_neg hx]
        exact ih ((List.mem_cons.mp h).resolve_left (Ne.symm hx))

theorem Checked.both_eq_ok {a : Checked α} {b : Checked β} {x : α} {y : β} :
    a.both b = .ok (x, y) ↔ a = .ok x ∧ b = .ok y := by
  cases a <;> cases b <;> simp [both]

theorem Checked.under_eq_ok {a : Checked α} {step : Step} {x : α} :
    a.under step = .ok x ↔ a = .ok x := by
  cases a <;> simp [under]

theorem Checked.all_eq_ok {results : List (Checked α)} {xs : List α} :
    Checked.all results = .ok xs ↔ results = xs.map .ok := by
  induction results generalizing xs with
  | nil => cases xs <;> simp [Checked.all]
  | cons result rest ih =>
    rw [Checked.all, map_ok]
    cases xs with
    | nil => simp
    | cons x xs =>
      rw [List.map_cons, List.cons.injEq, ← ih]
      constructor
      · rintro ⟨⟨y, ys⟩, hboth, heq⟩
        cases heq
        exact Checked.both_eq_ok.mp hboth
      · intro h
        exact ⟨(x, xs), Checked.both_eq_ok.mpr h, rfl⟩

namespace Value

theorem lookup_text (name key : String) (v : Value) (entries : List (Value × Value)) :
    lookup name ((.text key, v) :: entries) =
      if key = name then some v else lookup name entries := by
  have hkey : (Value.text key).sameKey (.text name) = decide (key = name) := by
    rw [Bool.eq_iff_iff, sameKey_text]
    simp
  rw [lookup, List.find?_cons, hkey]
  by_cases h : key = name <;> simp [h, lookup]

theorem lookup_append (name : String) (xs ys : List (Value × Value)) :
    lookup name (xs ++ ys) = (lookup name xs).or (lookup name ys) := by
  rw [lookup, List.find?_append, Option.map_or]
  rfl

theorem lookup_insertEntry (name key : String) (v : Value) (entries : List (Value × Value)) :
    lookup name (insertEntry (.text key) v entries) =
      if key = name then some v else lookup name entries := by
  induction entries with
  | nil => exact lookup_text name key v []
  | cons e rest ih =>
    obtain ⟨k, w⟩ := e
    rw [insertEntry]
    by_cases hk : k = .text key
    · subst hk
      rw [if_pos ((sameKey_text _ _).mpr rfl), lookup_text, lookup_text]
      split <;> rfl
    · rw [if_neg (mt (sameKey_text _ _).mp hk)]
      by_cases hn : k.sameKey (.text name) = true
      · have hname := (sameKey_text _ _).mp hn
        have hother : key ≠ name := fun h => hk (by rw [hname, h])
        simp [lookup, hn, hother]
      · rw [Bool.not_eq_true] at hn
        simpa [lookup, hn] using ih

end Value

/-! ### Switches -/

theorem find?_all (s : Switch) : Switch.all.find? (· = s) = some s := by
  cases s <;> rfl

theorem name_injective {s t : Switch} (h : s.name = t.name) : s = t :=
  List.inj_on_of_nodup_map (by decide : (Switch.all.map Switch.name).Nodup) (mem_all s)
    (mem_all t) h

/-- Only one switch has a single spelling; the other spelling of any other is no name of one. -/
theorem camelName_spelling (s : Switch) :
    s.camelName = s.name ∨ ∀ t : Switch, t.name ≠ s.camelName := by
  have hall : ∀ s ∈ Switch.all, s.camelName = s.name ∨ ∀ t ∈ Switch.all, t.name ≠ s.camelName := by
    decide
  exact (hall s (mem_all s)).imp_right fun h t => h t (mem_all t)

namespace MinifyOptions

def dumpEntries (o : MinifyOptions) : List (Value × Value) :=
  Switch.all.filterMap fun s => (o.supplied s).map fun b => (.text s.name, .bool b)

theorem lookup_dumpEntries (o : MinifyOptions) (name : String) :
    Value.lookup name o.dumpEntries =
      Switch.all.findSome? fun s => if s.name = name then (o.supplied s).map .bool else none := by
  rw [dumpEntries]
  generalize Switch.all = switches
  induction switches with
  | nil => rfl
  | cons s rest ih =>
    rw [List.filterMap_cons, List.findSome?_cons]
    cases hs : o.supplied s with
    | none => simpa using ih
    | some b =>
      simp only [Option.map_some, Value.lookup_text, ih]
      split <;> rfl

/-- A switch is looked up under the name that it was written with. -/
theorem lookup_name (o : MinifyOptions) (s : Switch) :
    Value.lookup s.name o.dumpEntries = (o.supplied s).map .bool := by
  have hname (t : Switch) : (if t.name = s.name then (o.supplied t).map Value.bool else none) =
      if t = s then (o.supplied s).map Value.bool else none := by
    by_cases h : t = s
    · rw [h, if_pos rfl, if_pos rfl]
    · rw [if_neg (mt name_injective h), if_neg h]
  rw [lookup_dumpEntries]
  simp only [hname]
  exact findSome?_single (mem_all s) _

theorem entry?_dumpEntries (o : MinifyOptions) (s : Switch) :
    entry? [s.camelName, s.name] o.dumpEntries =
      (o.supplied s).map fun b => (s.name, .bool b) := by
  rw [ entry?, List.findSome?_cons, List.findSome?_singleton, lookup_name, Option.map_map]
  rcases camelName_spelling s with hsame | hother
  · rw [hsame, lookup_name]
    cases o.supplied s <;> rfl
  · have hnone : Switch.all.findSome? (fun t => if t.name = s.camelName then
        (o.supplied t).map Value.bool else none) = none := by simp [hother]
    rw [lookup_dumpEntries, hnone]
    rfl

theorem readSwitch_dumpEntries (o : MinifyOptions) :
    readSwitch o.dumpEntries = fun s => .ok (s, o.supplied s) := by
  funext s
  rw [readSwitch, entry?_dumpEntries]
  cases o.supplied s <;> rfl

/-- Settings are read from their own document as they were, and so is which of them were supplied.
-/
theorem read_dump (o : MinifyOptions) : MinifyOptions.read o.dump = .ok o := by
  have hsupplied (s : Switch) : ((Switch.all.map fun s => (s, o.supplied s)).find? fun e =>
      e.1 = s).bind Prod.snd = o.supplied s := by
    rw [List.find?_map]
    simp only [Function.comp_def, find?_all]
    rfl
  change MinifyOptions.read (.map o.dumpEntries) = .ok o
  have hall : Checked.all (Switch.all.map fun s => .ok (s, o.supplied s)) =
      .ok (Switch.all.map fun s => (s, o.supplied s)) := by
    rw [Checked.all_eq_ok, List.map_map]
    rfl
  rw [MinifyOptions.read, readSwitch_dumpEntries, hall]
  simp only [Except.map, hsupplied]

end MinifyOptions

/-! ### Options -/

def fieldValue (dump : α → Value) : Option α → Value
  | none => .null
  | some a => dump a

theorem lookup_dumpField (name key : String) (dump : α → Value) (field : Option (Option α)) :
    Value.lookup name (TransformOptions.dumpField key dump field) =
      if key = name then field.map (fieldValue dump) else none := by
  rw [TransformOptions.dumpField.eq_def]
  match field with
  | none => simp [Value.lookup]
  | some none => exact Value.lookup_text name key .null []
  | some (some a) => exact Value.lookup_text name key (dump a) []

/-- A field is read back if it stands under its own name and not under another one. -/
theorem readField_fieldValue {names : List String} {name : String}
    {read : Value → Checked (Option α)}
    {entries : List (Value × Value)} {dump : α → Value} {field : Option (Option α)}
    (h : entry? names entries = (field.map (fieldValue dump)).map fun v => (name, v))
    (hread : ∀ a, field = some a → read (fieldValue dump a) = .ok a) :
    readField names read entries = .ok field := by
  rw [readField, h]
  cases field with
  | none => rfl
  | some a =>
    simp only [Option.map_some, hread a rfl]
    rfl

/-- A field that was read was read from some value. -/
theorem readField_eq_some {names : List String} {read : Value → Checked α}
    {entries : List (Value × Value)} {a : α} (h : readField names read entries = .ok (some a)) :
    ∃ v, read v = .ok a := by
  rw [readField] at h
  split at h
  · cases h
  · obtain ⟨a, hread, hsome⟩ := map_ok.mp h
    cases hsome
    exact ⟨_, Checked.under_eq_ok.mp hread⟩

/-- The items of a list are read one by one; their places matter for complaints only. -/
theorem all_indexed_eq_ok {items : List Value} {texts : List String} (start : Nat) :
    Checked.all ((items.zipIdx start).map fun (v, n) => (readText v).under (.index n)) =
        .ok texts ↔ items.map readText = texts.map .ok := by
  rw [Checked.all_eq_ok]
  induction items generalizing texts start with
  | nil => rfl
  | cons v rest ih =>
    cases texts with
    | nil => simp
    | cons s texts =>
      simp only [List.zipIdx_cons, List.map_cons, List.cons.injEq, ih, Checked.under_eq_ok]

theorem readTexts_dump (es : List String) : readTexts (.list (es.map .text)) = .ok es := by
  rw [readTexts, all_indexed_eq_ok, List.map_map]
  rfl

theorem readExtensions_fieldValue (extensions : Option (List String)) :
    nullable readTexts (unwrapExtensions (fieldValue (fun es => .list (es.map .text)) extensions)) =
      .ok extensions := by
  cases extensions with
  | none => rfl
  | some es =>
    simp only [fieldValue, unwrapExtensions, nullable, readTexts_dump]
    rfl

theorem readMinify_fieldValue (minify : Option MinifyChoice) :
    nullable readChoice (fieldValue TransformOptions.dumpChoice minify) = .ok minify := by
  match minify with
  | none => rfl
  | some (.flag b) => rfl
  | some (.settings o) =>
    have hchoice : readChoice o.dump = .ok (.settings o) := by
      rw [readChoice, o.read_dump]
    rw [fieldValue, TransformOptions.dumpChoice]
    exact congrArg (Except.map some) hchoice

theorem readRelative_fieldValue (relative : Option Bool) :
    nullable readBool (fieldValue .bool relative) = .ok relative := by
  cases relative <;> rfl

/-- Aliases without a fragment that is there twice. -/
def Distinct (aliases : Aliases) : Prop := (aliases.map Prod.fst).Nodup

theorem insertAlias_fresh {search replacement : String} {aliases : Aliases}
    (h : search ∉ aliases.map Prod.fst) :
    insertAlias search replacement aliases = aliases ++ [(search, replacement)] := by
  induction aliases with
  | nil => rfl
  | cons a rest ih =>
    obtain ⟨s, r⟩ := a
    rw [List.map_cons, List.mem_cons, not_or] at h
    rw [insertAlias, if_neg (Ne.symm h.1), ih h.2]
    rfl

theorem map_fst_insertAlias (search replacement : String) (aliases : Aliases) :
    (insertAlias search replacement aliases).map Prod.fst =
      if search ∈ aliases.map Prod.fst then aliases.map Prod.fst
      else aliases.map Prod.fst ++ [search] := by
  induction aliases with
  | nil => rfl
  | cons a rest ih =>
    obtain ⟨s, r⟩ := a
    rw [insertAlias]
    by_cases hs : s = search
    · simp [hs]
    · rw [if_neg hs, List.map_cons, ih, List.map_cons]
      by_cases hrest : search ∈ rest.map Prod.fst
      · rw [if_pos hrest, if_pos (List.mem_cons_of_mem _ hrest)]
      · have hall : search ∉ s :: rest.map Prod.fst := by simp [Ne.symm hs, hrest]
        rw [if_neg hrest, if_neg hall]
        rfl

theorem distinct_insertAlias {aliases : Aliases} (h : Distinct aliases)
    (search replacement : String) : Distinct (insertAlias search replacement aliases) := by
  rw [Distinct, map_fst_insertAlias]
  split
  · exact h
  · rename_i hfresh
    rw [← List.concat_eq_append]
    exact List.Nodup.concat hfresh h

theorem distinct_foldl {done : Aliases} (h : Distinct done) (pairs : Aliases) :
    Distinct (pairs.foldl (fun done (s, r) => insertAlias s r done) done) := by
  induction pairs generalizing done with
  | nil => exact h
  | cons a rest ih => exact ih (distinct_insertAlias h a.1 a.2)

/-- Aliases with different fragments are kept as they are when they are added one by one. -/
theorem foldl_insertAlias {done aliases : Aliases} (h : Distinct (done ++ aliases)) :
    aliases.foldl (fun done (s, r) => insertAlias s r done) done = done ++ aliases := by
  induction aliases generalizing done with
  | nil => simp
  | cons a rest ih =>
    obtain ⟨s, r⟩ := a
    have hnext : done ++ (s, r) :: rest = (done ++ [(s, r)]) ++ rest := by simp
    have hfresh : s ∉ done.map Prod.fst := by
      rw [Distinct, List.map_append, List.nodup_append] at h
      exact fun hs => h.2.2 s hs s (by simp) rfl
    have hrest := ih (hnext ▸ h)
    rw [← insertAlias_fresh hfresh] at hrest
    have hnow : insertAlias s r done ++ rest = done ++ (s, r) :: rest := by
      rw [insertAlias_fresh hfresh, hnext]
    exact hrest.trans hnow

theorem distinct_readAliases {v : Value} {aliases : Aliases}
    (h : readAliases v = .ok (some aliases)) : Distinct aliases := by
  cases v with
  | map entries =>
    simp only [readAliases] at h
    split at h
    · cases h
      exact distinct_foldl (show Distinct [] from List.nodup_nil) _
    · cases h
  | _ => cases h

theorem texts_dumpAliases (aliases : Aliases) :
    ((aliases.map fun (s, r) => (Value.text s, Value.text r)).mapM fun (k, v) => do
      some (← k.text?, ← v.text?)) = some aliases := by
  rw [List.mapM_map]
  exact List.mapM_pure.trans (congrArg some (List.map_id' aliases))

theorem readAliases_dump {aliases : Aliases} (h : Distinct aliases) :
    readAliases (TransformOptions.dumpAliases aliases) = .ok (some aliases) := by
  have hfold := foldl_insertAlias (show Distinct ([] ++ aliases) from h)
  rw [TransformOptions.dumpAliases, readAliases, texts_dumpAliases]
  exact congrArg (fun a => Except.ok (some a)) hfold

theorem readReplace_fieldValue {aliases : Option Aliases}
    (h : ∀ present, aliases = some present → Distinct present) :
    readAliases (fieldValue TransformOptions.dumpAliases aliases) = .ok aliases := by
  cases aliases with
  | none => rfl
  | some present => exact readAliases_dump (h present rfl)

namespace TransformOptions

def IsDistinct (o : TransformOptions) : Prop :=
  ∀ aliases, o.replacePaths = some (some aliases) → Distinct aliases

structure Describes (entries : List (Value × Value)) (o : TransformOptions) : Prop where
  extensions : Value.lookup "extensions" entries =
    o.extensions.map (fieldValue fun es => .list (es.map .text))
  minify : Value.lookup "minify" entries = o.minify.map (fieldValue dumpChoice)
  relativePath : Value.lookup "relative_path" entries = o.relativePath.map (fieldValue .bool)
  noRelativePath : Value.lookup "relativePath" entries = none
  replacePaths : Value.lookup "replace_paths" entries =
    o.replacePaths.map (fieldValue dumpAliases)
  noReplacePaths : Value.lookup "replacePaths" entries = none

theorem entry?_single (name : String) (entries : List (Value × Value)) :
    entry? [name] entries = (Value.lookup name entries).map fun v => (name, v) :=
  List.findSome?_singleton

theorem entry?_second {other : String} {entries : List (Value × Value)}
    (h : Value.lookup other entries = none) (name : String) :
    entry? [other, name] entries = (Value.lookup name entries).map fun v => (name, v) := by
  rw [ entry?, List.findSome?_cons, h]
  exact List.findSome?_singleton

/-- A document that describes options is read as these options. -/
theorem read_of_describes {entries : List (Value × Value)} {o : TransformOptions}
    (h : Describes entries o) (hd : o.IsDistinct) : read (.map entries) = .ok o := by
  have hextensions :
      readField ["extensions"] (fun v => nullable readTexts (unwrapExtensions v)) entries =
        .ok o.extensions :=
    readField_fieldValue (( entry?_single _ entries).trans (by rw [h.extensions]))
      fun extensions _ => readExtensions_fieldValue extensions
  have hminify := readField_fieldValue (( entry?_single _ entries).trans (by rw [h.minify]))
    fun minify _ => readMinify_fieldValue minify
  have hrelative := readField_fieldValue
    (( entry?_second h.noRelativePath _).trans (by rw [h.relativePath]))
    fun relative _ => readRelative_fieldValue relative
  have hreplace := readField_fieldValue
    (( entry?_second h.noReplacePaths _).trans (by rw [h.replacePaths]))
    fun aliases ha => readReplace_fieldValue fun present hp => hd present (hp ▸ ha)
  rw [read, hextensions, hminify, hrelative, hreplace]
  rfl

/-- Options are described by the document that they are written to. -/
theorem describes_dumpEntries (o : TransformOptions) : Describes o.dumpEntries o := by
  constructor <;> simp [dumpEntries, Value.lookup_append, lookup_dumpField]

/-- A document describes the options with another choice when the entry of that field is replaced.
-/
theorem Describes.insertRelativePath {entries : List (Value × Value)} {o : TransformOptions}
    (h : Describes entries o) (b : Bool) :
    Describes (Value.insertEntry (.text "relative_path") (.bool b) entries)
      { o with relativePath := some (some b) } := by
  constructor <;> simp [Value.lookup_insertEntry, h.extensions, h.minify, h.noRelativePath,
    h.replacePaths, h.noReplacePaths, fieldValue]

theorem Describes.insertMinify {entries : List (Value × Value)} {o : TransformOptions}
    (h : Describes entries o) (b : Bool) :
    Describes (Value.insertEntry (.text "minify") (.bool b) entries)
      { o with minify := some (some (.flag b)) } := by
  constructor <;> simp [Value.lookup_insertEntry, h.extensions, h.relativePath, h.noRelativePath,
    h.replacePaths, h.noReplacePaths, fieldValue, dumpChoice]

/-- Options that were read have no fragment twice. -/
theorem isDistinct_read {v : Value} {o : TransformOptions} (h : read v = .ok o) :
    o.IsDistinct := by
  cases v with
  | map entries =>
    obtain ⟨⟨extensions, minify, relative, replace⟩, hfields, rfl⟩ := map_ok.mp h
    obtain ⟨-, hfields⟩ := Checked.both_eq_ok.mp hfields
    obtain ⟨-, hfields⟩ := Checked.both_eq_ok.mp hfields
    obtain ⟨-, hreplace⟩ := Checked.both_eq_ok.mp hfields
    intro aliases ha
    obtain ⟨v, hv⟩ := readField_eq_some (hreplace.trans (congrArg Except.ok ha))
    exact distinct_readAliases hv
  | _ => cases h

theorem isDistinct_empty : IsDistinct {} := fun _ h => by cases h

theorem isDistinct_readOptional {v : Value} {o : TransformOptions} (h : readOptional v = .ok o) :
    o.IsDistinct := by
  rw [readOptional.eq_def] at h
  split at h
  · cases h
    exact isDistinct_empty
  · exact isDistinct_read h

theorem isDistinct_ofFile {bytes : Text.Bytes} {o : TransformOptions} (h : ofFile bytes = .ok o) :
    o.IsDistinct := by
  rw [ofFile] at h
  split at h
  · cases h
  · split at h
    · cases h
    · rename_i v _
      have hdocument : ofDocument v = .ok o := mapError_ok.mp h
      rw [ofDocument] at hdocument
      split at hdocument
      · cases hdocument
        exact isDistinct_empty
      · exact isDistinct_read hdocument

end TransformOptions

end Stencil.Options
