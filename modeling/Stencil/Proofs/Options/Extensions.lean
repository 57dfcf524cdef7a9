import Stencil.Options.Extensions
import Stencil.Path
import Stencil.Proofs.Options.Dump

/-!
Extensions taken from options that were checked, and from the same options before. Both say the same
of a list of texts, and where nothing is supplied. They differ on a text, which counts for nothing
once it is checked and is taken apart before, and on a record, of which checked options keep the
list in it and unchecked ones the names of its entries.
-/
namespace Stencil.Options

open Text

/-- Texts are read as they are. -/
theorem eq_of_readText_text {names texts : List String}
    (h : (names.map Value.text).map readText = texts.map .ok) : names = texts := by
  rw [List.map_map] at h
  exact List.map_injective_iff.mpr (fun _ _ => Except.ok.inj) h

theorem lowerItems_eq_ok {items : List Value} {extensions : List String} :
    (items.mapM fun
      | .text s => .ok (lower s)
      | _ => .error ExtensionError.noText) = Except.ok extensions ↔
      ∃ names : List String, items = names.map .text ∧ lowerAll names = extensions := by
  rw [mapM_ok]
  induction items generalizing extensions with
  | nil => cases extensions <;> simp [lowerAll]
  | cons v rest ih =>
    cases extensions with
    | nil => simp [lowerAll]
    | cons e extensions =>
      rw [List.map_cons, List.map_cons, List.cons.injEq, ih]
      constructor
      · rintro ⟨hv, names, rfl, rfl⟩
        cases v with
        | text s =>
          cases hv
          exact ⟨s :: names, rfl, rfl⟩
        | _ => cases hv
      · rintro ⟨names, hitems, hlower⟩
        cases names with
        | nil => cases hitems
        | cons s names =>
          cases hitems
          cases hlower
          exact ⟨rfl, names, rfl, rfl⟩

/-- A value that was not checked gives extensions if it has items and all of them are texts. -/
theorem extensionItems_eq_ok {v : Value} {extensions : List String} :
    extensionItems v = .ok extensions ↔
      ∃ names : List String, items? v = some (names.map .text) ∧ lowerAll names = extensions := by
  rw [extensionItems.eq_def]
  cases items? v with
  | none => simp
  | some items =>
    simp only [Option.some.injEq]
    exact lowerItems_eq_ok

/-- In lower case, one character becomes two at most. -/
theorem length_lower_singleton (c : Char) : (lower (String.singleton c)).length ≤ 2 := by
  rw [lower, String.length_ofList, String.toList_singleton, lowerAfter, lowerAfter]
  split
  · simp
  · split <;> simp

/-- The characters of a text are not the extensions that are compiled by default. -/
theorem extensionItems_text_ne (s : String) :
    extensionItems (.text s) ≠ .ok (lowerAll defaultExtensions) := by
  intro h
  obtain ⟨names, hitems, hlower⟩ := extensionItems_eq_ok.mp h
  have hnames : names = s.toList.map String.singleton := by
    have hmap : (s.toList.map String.singleton).map Value.text = names.map Value.text := by
      rw [List.map_map]
      exact Option.some.inj hitems
    exact (List.map_injective_iff.mpr (fun _ _ => Value.text.inj) hmap).symm
  have hdefaults : lowerAll defaultExtensions = [".twig", ".html"] := by decide +kernel
  rw [hnames, lowerAll, List.map_map, hdefaults] at hlower
  have hfirst : ".twig" ∈ s.toList.map (lower ∘ String.singleton) :=
    hlower ▸ List.mem_cons_self
  obtain ⟨c, -, hc⟩ := List.mem_map.mp hfirst
  have hlength := length_lower_singleton c
  rw [show lower (String.singleton c) = ".twig" from hc] at hlength
  exact absurd hlength (by decide)

/-- What is supplied for extensions gives them also where it is not checked: a list of texts does,
and a record does only if they are the names of its entries. A text never does. -/
def ReadsAlike (extensions : List String) : Option Value → Prop
  | some (.list items) | some (.tuple items) | some (.set items) =>
    ∃ names : List String, items = names.map .text
  | some (.map entries) =>
    ∃ names : List String, entries.map Prod.fst = names.map .text ∧ lowerAll names = extensions
  | some (.text _) => False
  | _ => True

namespace TransformOptions

/-- The extensions of checked options: nothing was supplied for them, or it was read. -/
theorem extensions_of_read {entries : List (Value × Value)} {o : TransformOptions}
    (h : read (.map entries) = .ok o) :
    Value.lookup "extensions" entries = none ∧ o.extensions = none ∨
      ∃ v extensions, Value.lookup "extensions" entries = some v ∧
        nullable readTexts (unwrapExtensions v) = .ok extensions ∧
        o.extensions = some extensions := by
  obtain ⟨⟨extensions, minify, relative, replace⟩, hfields, rfl⟩ := map_ok.mp h
  obtain ⟨hextensions, -⟩ := Checked.both_eq_ok.mp hfields
  rw [readField, entry?_single] at hextensions
  cases hv : Value.lookup "extensions" entries with
  | none =>
    simp only [hv, Option.map_none, Except.ok.injEq] at hextensions
    exact .inl ⟨rfl, hextensions.symm⟩
  | some v =>
    simp only [hv, Option.map_some] at hextensions
    obtain ⟨read, hread, hsome⟩ := map_ok.mp hextensions
    exact .inr ⟨v, read, rfl, Checked.under_eq_ok.mp hread, hsome.symm⟩

/-- Of a list, both readings say the same exactly if its items are texts. -/
theorem extensionItems_eq_iff {items : List Value} {texts : List String}
    (hread : items.map readText = texts.map .ok) {v : Value} (hitems : items? v = some items) :
    extensionItems v = .ok (lowerAll texts) ↔ ∃ names : List String, items = names.map .text := by
  rw [extensionItems_eq_ok, hitems]
  simp only [Option.some.injEq]
  constructor
  · rintro ⟨names, hnames, -⟩
    exact ⟨names, hnames⟩
  · rintro ⟨names, rfl⟩
    exact ⟨names, rfl, congrArg lowerAll (eq_of_readText_text hread)⟩

/-- Options give the same extensions before they are checked exactly if what is supplied for
extensions is no text, no list with an item that is not a text, and no record, other than one whose
names happen to be the extensions. -/
theorem resolveExtensions_eq_iff {entries : List (Value × Value)} {o : TransformOptions}
    (h : read (.map entries) = .ok o) :
    Options.resolveExtensions (.map entries) = .ok o.resolveExtensions ↔
      ReadsAlike o.resolveExtensions (Value.lookup "extensions" entries) := by
  rcases extensions_of_read h with ⟨hv, hnone⟩ | ⟨v, extensions, hv, hread, hsome⟩
  · rw [Options.resolveExtensions, hv, TransformOptions.resolveExtensions, hnone]
    exact iff_of_true rfl trivial
  · rw [Options.resolveExtensions, hv, TransformOptions.resolveExtensions, hsome]
    cases v with
    | null =>
      cases hread
      exact iff_of_true rfl trivial
    | text s =>
      cases hread
      exact iff_of_false (extensionItems_text_ne s) id
    | list items =>
      obtain ⟨texts, htexts, rfl⟩ := map_ok.mp hread
      exact extensionItems_eq_iff ((all_indexed_eq_ok 0).mp htexts) rfl
    | tuple items =>
      obtain ⟨texts, htexts, rfl⟩ := map_ok.mp hread
      exact extensionItems_eq_iff ((all_indexed_eq_ok 0).mp htexts) rfl
    | set items =>
      obtain ⟨texts, htexts, rfl⟩ := map_ok.mp hread
      exact extensionItems_eq_iff ((all_indexed_eq_ok 0).mp htexts) rfl
    | map inner =>
      rw [ReadsAlike]
      simp only [extensionItems_eq_ok, items?, Option.some.injEq]
    | _ => cases hread

/-- A record that carries a list: it is the list that counts once the options are checked, and the
name of its entry before. -/
theorem resolveExtensions_eq_iff_record :
    let supplied : Value := .map [(.text "extensions", .list [.text ".J2", .text ".HTML"])]
    let entries : List (Value × Value) := [(.text "extensions", supplied), (.text "lint", .null)]
    let o : TransformOptions := { extensions := some (some [".J2", ".HTML"]) }
    read (.map entries) = .ok o ∧
      (Options.resolveExtensions (.map entries) = .ok o.resolveExtensions ↔
        ReadsAlike o.resolveExtensions (some supplied)) ∧
      Options.resolveExtensions (.map entries) = .ok ["extensions"] ∧
      o.resolveExtensions = [".j2", ".html"] := by
  intro supplied entries o
  have hread : read (.map entries) = .ok o := by rfl
  exact ⟨hread, resolveExtensions_eq_iff hread, by decide +kernel, by decide +kernel⟩

/-- A text counts for nothing once the options are checked, so a page is a template; before, each of
its characters is an extension, and the page is none. -/
theorem not_resolved_alike_text :
    let entries : List (Value × Value) := [(.text "extensions", .text ".tpl")]
    let o : TransformOptions := { extensions := some none }
    read (.map entries) = .ok o ∧ o.resolveExtensions = [".twig", ".html"] ∧
      Options.resolveExtensions (.map entries) = .ok [".", "t", "p", "l"] ∧
      Path.isEligible "page.html" o.resolveExtensions = true ∧
      Path.isEligible "page.html" [".", "t", "p", "l"] = false := by
  intro entries o
  exact ⟨by rfl, by decide +kernel, by decide +kernel, by decide +kernel, by decide +kernel⟩

end TransformOptions

end Stencil.Options
