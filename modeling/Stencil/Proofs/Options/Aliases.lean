import Mathlib.Data.List.Forall2
import Mathlib.Data.List.Induction
import Stencil.Proofs.Options.Dump

/-!
Aliases in a document of options. Whatever is supplied for them, the options are accepted if they
are accepted without it, and nothing else of them changes: a value that is no mapping turns aliases
off, and a mapping gives one alias for each text of a key.
-/
namespace Stencil.Options

def Value.IsMapping : Value → Prop
  | .map _ => True
  | _ => False

/-- If the value is a mapping, its keys and its values have texts: none of them holds a whole number
that is too long to be written. -/
def Value.HasTexts : Value → Prop
  | .map entries => ∀ e ∈ entries, e.1.text?.isSome ∧ e.2.text?.isSome
  | _ => True

def IsText (e : Value × Value) (p : String × String) : Prop :=
  e.1.text? = some p.1 ∧ e.2.text? = some p.2

/-- Pairs of which each key is kept once: in the place where it stands first, with the value that it
has last. -/
structure Collapsed (pairs aliases : Aliases) : Prop where
  keys : aliases.map Prod.fst = (pairs.map Prod.fst).eraseDups
  last : ∀ a ∈ aliases, ∃ before after, pairs = before ++ a :: after ∧ a.1 ∉ after.map Prod.fst

/-- What is supplied for aliases, and the aliases that it stands for. -/
inductive StandsFor : Value → Option Aliases → Prop
  | mapping {entries pairs aliases} (texts : List.Forall₂ IsText entries pairs)
      (collapsed : Collapsed pairs aliases) : StandsFor (.map entries) (some aliases)
  | other {v} (h : ¬v.IsMapping) : StandsFor v none

/-- The names that aliases are supplied under. -/
def aliasNames : List String := ["replacePaths", "replace_paths"]

theorem mem_insertAlias {a : String × String} {search replacement : String} {aliases : Aliases}
    (h : Distinct aliases) (ha : a ∈ insertAlias search replacement aliases) :
    a = (search, replacement) ∨ a ∈ aliases ∧ a.1 ≠ search := by
  induction aliases with
  | nil => exact .inl (List.mem_singleton.mp ha)
  | cons first rest ih =>
    obtain ⟨s, r⟩ := first
    obtain ⟨hfresh, hrest⟩ := List.nodup_cons.mp h
    rw [insertAlias] at ha
    by_cases hs : s = search
    · subst hs
      rw [if_pos rfl] at ha
      rcases List.mem_cons.mp ha with ha | ha
      · exact .inl ha
      · have hne : a.1 ≠ s := fun heq => hfresh (List.mem_map.mpr ⟨a, ha, heq⟩)
        exact .inr ⟨List.mem_cons_of_mem _ ha, hne⟩
    · rw [if_neg hs] at ha
      rcases List.mem_cons.mp ha with rfl | ha
      · exact .inr ⟨List.mem_cons_self, hs⟩
      · rcases ih hrest ha with hnew | ⟨hold, hne⟩
        · exact .inl hnew
        · exact .inr ⟨List.mem_cons_of_mem _ hold, hne⟩

/-- One more pair: a new key comes last, and a key that is there takes the value. -/
theorem Collapsed.insert {pairs aliases : Aliases} (h : Collapsed pairs aliases)
    (hd : Distinct aliases) (search replacement : String) :
    Collapsed (pairs ++ [(search, replacement)]) (insertAlias search replacement aliases) := by
  constructor
  · have hmem : search ∈ aliases.map Prod.fst ↔ search ∈ pairs.map Prod.fst := by
      rw [h.keys, List.mem_eraseDups]
    rw [map_fst_insertAlias, List.map_append, List.map_singleton, List.eraseDups_append, ← h.keys]
    by_cases hs : search ∈ pairs.map Prod.fst
    · rw [if_pos (hmem.mpr hs)]
      simp [List.removeAll, hs]
    · rw [if_neg (mt hmem.mp hs)]
      simp [List.removeAll, hs, List.eraseDups_cons]
  · intro a ha
    rcases mem_insertAlias hd ha with rfl | ⟨hold, hne⟩
    · exact ⟨pairs, [], rfl, by simp⟩
    · obtain ⟨before, after, rfl, hlast⟩ := h.last a hold
      refine ⟨before, after ++ [(search, replacement)], by simp, ?_⟩
      rw [List.map_append, List.mem_append, not_or]
      exact ⟨hlast, by simpa using hne⟩

theorem collapsed_foldl (pairs : Aliases) :
    Collapsed pairs (pairs.foldl (fun done (s, r) => insertAlias s r done) []) := by
  -- The pairs come one by one, so the induction takes the last one away.
  induction pairs using List.reverseRecOn with
  | nil => exact ⟨rfl, fun a ha => by cases ha⟩
  | append_singleton pairs p ih =>
    obtain ⟨s, r⟩ := p
    rw [List.foldl_append]
    exact ih.insert (distinct_foldl (show Distinct [] from List.nodup_nil) pairs) s r

/-- Where each entry has texts, all of them are read. -/
theorem exists_texts {entries : List (Value × Value)}
    (h : ∀ e ∈ entries, e.1.text?.isSome ∧ e.2.text?.isSome) :
    ∃ pairs, (entries.mapM fun (k, v) => do some (← k.text?, ← v.text?)) = some pairs ∧
      List.Forall₂ IsText entries pairs := by
  induction entries with
  | nil => exact ⟨[], rfl, .nil⟩
  | cons e rest ih =>
    obtain ⟨key, value⟩ := e
    obtain ⟨he, hrest⟩ := List.forall_mem_cons.mp h
    obtain ⟨s, hs⟩ := Option.isSome_iff_exists.mp he.1
    obtain ⟨r, hr⟩ := Option.isSome_iff_exists.mp he.2
    obtain ⟨pairs, hpairs, hall⟩ := ih hrest
    refine ⟨(s, r) :: pairs, ?_, .cons ⟨hs, hr⟩ hall⟩
    rw [List.mapM_cons, hpairs]
    simp only [hs, hr]
    rfl

/-- Reading aliases does not fail on values with texts. -/
theorem readAliases_of_hasTexts {v : Value} (h : v.HasTexts) :
    ∃ aliases, StandsFor v aliases ∧ readAliases v = .ok aliases := by
  cases v with
  | map entries =>
    obtain ⟨pairs, hpairs, htexts⟩ := exists_texts h
    refine ⟨_, .mapping htexts (collapsed_foldl pairs), ?_⟩
    rw [readAliases, hpairs]
  | _ => exact ⟨none, .other id, rfl⟩

theorem StandsFor.eq_none_iff {v : Value} {aliases : Option Aliases} (h : StandsFor v aliases) :
    aliases = none ↔ ¬v.IsMapping := by
  cases h with
  | mapping => simp [Value.IsMapping]
  | other h => exact iff_of_true rfl h

/-- With an entry added, another name is looked up as before. -/
theorem Value.lookup_inserted (name other : String) (v : Value)
    (before after : List (Value × Value)) :
    Value.lookup other (before ++ (.text name, v) :: after) =
      if name = other then (Value.lookup other before).or (some v)
      else Value.lookup other (before ++ after) := by
  rw [Value.lookup_append, Value.lookup_text, Value.lookup_append]
  split <;> rfl

/-- An entry of another name is passed over. -/
theorem entry?_inserted_other {name : String} {names : List String} (h : name ∉ names) (v : Value)
    (before after : List (Value × Value)) :
    entry? names (before ++ (.text name, v) :: after) = entry? names (before ++ after) := by
  induction names with
  | nil => rfl
  | cons first rest ih =>
    rw [List.mem_cons, not_or] at h
    have hrest := ih h.2
    simp only [List.findSome?_cons, entry?] at hrest ⊢
    rw [Value.lookup_inserted, if_neg h.1, hrest]

/-- Under one of some names, with nothing under the others, the entry is found. -/
theorem entry?_inserted_same {name : String} {names : List String} (h : name ∈ names) (v : Value)
    {before after : List (Value × Value)}
    (hnone : ∀ other ∈ names, Value.lookup other (before ++ after) = none) :
    entry? names (before ++ (.text name, v) :: after) = some (name, v) := by
  induction names with
  | nil => cases h
  | cons first rest ih =>
    obtain ⟨hfirst, hrest⟩ := List.forall_mem_cons.mp hnone
    rw [ entry?, List.findSome?_cons, Value.lookup_inserted]
    by_cases hname : name = first
    · have hbefore : Value.lookup first before = none := by
        rw [Value.lookup_append, Option.or_eq_none_iff] at hfirst
        exact hfirst.1
      rw [if_pos hname, hbefore, hname]
      rfl
    · rw [if_neg hname, hfirst]
      exact ih ((List.mem_cons.mp h).resolve_left hname) hrest

namespace TransformOptions

/-- Options are read from the fields that are there; those without an entry for aliases are read as
the same options with it, apart from the aliases. -/
theorem read_inserted {before after : List (Value × Value)} {name : String} {v : Value}
    {aliases : Option Aliases} (hname : name ∈ aliasNames)
    (hnone : ∀ other ∈ aliasNames, Value.lookup other (before ++ after) = none)
    (hread : readAliases v = .ok aliases) :
    read (.map (before ++ (.text name, v) :: after)) =
      (read (.map (before ++ after))).map fun o => { o with replacePaths := some aliases } := by
  have hother {α : Type} (names : List String) (readValue : Value → Checked α)
      (h : ∀ other ∈ aliasNames, other ∉ names) :
      readField names readValue (before ++ (.text name, v) :: after) =
        readField names readValue (before ++ after) := by
    rw [readField, readField, entry?_inserted_other (h name hname)]
  have habsent : readField aliasNames readAliases (before ++ after) = .ok none := by
    rw [readField, show entry? aliasNames (before ++ after) = none from
      List.findSome?_eq_none_iff.mpr fun other h => by rw [hnone other h]; rfl]
  have hsupplied : readField aliasNames readAliases (before ++ (.text name, v) :: after) =
      .ok (some aliases) := by
    rw [readField, entry?_inserted_same hname v hnone]
    simp only [hread]
    rfl
  change readField ["replacePaths", "replace_paths"] readAliases _ = _ at habsent hsupplied
  rw [read, read, habsent, hsupplied, hother ["extensions"] _ (by decide),
    hother ["minify"] _ (by decide), hother ["relativePath", "relative_path"] _ (by decide)]
  generalize readField ["extensions"] _ (before ++ after) = extensions
  generalize readField ["minify"] _ (before ++ after) = minify
  generalize readField ["relativePath", "relative_path"] _ (before ++ after) = relativePath
  cases extensions <;> cases minify <;> cases relativePath <;> rfl

/-- Whatever is supplied for aliases, options are read as they are read without it, or refused with
the same complaints; only the aliases are new, and they are those that the value stands for. A
configuration takes them over, so aliases are off in it exactly if the value is no mapping. -/
theorem readOptional_aliased {before after : List (Value × Value)} {name : String} {v : Value}
    (hname : name ∈ aliasNames)
    (hnone : ∀ other ∈ aliasNames, Value.lookup other (before ++ after) = none)
    (hv : v.HasTexts) :
    let bare := readOptional (.map (before ++ after))
    let aliased := readOptional (.map (before ++ (.text name, v) :: after))
    ∃ aliases, StandsFor v aliases ∧
      aliased = bare.map (fun o => { o with replacePaths := some aliases }) ∧
      ∀ o, aliased = .ok o → ∀ config : BuildConfig,
        (config.merge o).replacePaths = aliases ∧
          ((config.merge o).replacePaths = none ↔ ¬v.IsMapping) := by
  intro bare aliased
  obtain ⟨aliases, hstands, hread⟩ := readAliases_of_hasTexts hv
  have haliased : aliased = bare.map fun o => { o with replacePaths := some aliases } :=
    read_inserted hname hnone hread
  refine ⟨aliases, hstands, haliased, fun o ho config => ?_⟩
  obtain ⟨bareOptions, -, rfl⟩ := map_ok.mp (haliased.symm.trans ho)
  have hmerged : (config.merge { bareOptions with replacePaths := some aliases }).replacePaths =
      aliases := rfl
  exact ⟨hmerged, hmerged ▸ hstands.eq_none_iff⟩

/-- A mapping with two keys of one text, between other entries. -/
theorem readOptional_aliased_keys :
    let before : List (Value × Value) := [(.text "extensions", .list [.text ".J2"])]
    let after : List (Value × Value) := [(.text "lint", .null), (.text "minify", .bool false)]
    let v : Value := .map [(.bool true, .text "@"), (.text "/app", .null),
      (.text "True", .list [.number .nan, .text "a"])]
    let aliases : Aliases := [("True", "[nan, 'a']"), ("/app", "None")]
    "replace_paths" ∈ aliasNames ∧
      (∀ other ∈ aliasNames, Value.lookup other (before ++ after) = none) ∧ v.HasTexts ∧
      (∃ found, StandsFor v found ∧
        readOptional (.map (before ++ (.text "replace_paths", v) :: after)) =
          (readOptional (.map (before ++ after))).map fun o =>
            { o with replacePaths := some found }) ∧
      readOptional (.map (before ++ (.text "replace_paths", v) :: after)) =
        .ok { extensions := some (some [".J2"]), minify := some (some (.flag false)),
              replacePaths := some (some aliases) } := by
  intro before after v aliases
  have hname : "replace_paths" ∈ aliasNames := by decide
  have hnone : ∀ other ∈ aliasNames, Value.lookup other (before ++ after) = none := by
    intro other h
    rcases List.mem_cons.mp h with rfl | h
    · rfl
    · rw [List.mem_singleton.mp h]
      rfl
  have hv : v.HasTexts := by
    simp only [v, Value.HasTexts]
    decide +kernel
  obtain ⟨found, hstands, hread, -⟩ := readOptional_aliased hname hnone hv
  exact ⟨hname, hnone, hv, ⟨found, hstands, hread⟩, by rfl⟩

end TransformOptions

end Stencil.Options
