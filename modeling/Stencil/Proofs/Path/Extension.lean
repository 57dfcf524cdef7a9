import Stencil.Path
import Stencil.Options.Extensions
import Stencil.Proofs.Text.Lower
import Stencil.Proofs.Text.Search

/-!
Which files are templates. Only the name after the last slash counts, and of it the part from its
last dot on, if something other than dots stands before; the file is a template if that part is one
of the extensions, in any case.
-/
namespace Stencil.Path

open Text Options

structure IsLastSegment (segment path : List Char) : Prop where
  noSlash : '/' ∉ segment
  ends : path = segment ∨ ∃ directory, path = directory ++ '/' :: segment

inductive IsExtension : List Char → Prop where
  | dot {tail : List Char} : '.' ∉ tail → IsExtension ('.' :: tail)

/-- The name of the file is a stem and an extension; not all of the stem is dots, and in lower case
the extension is one of a list. -/
def Matches (path : String) (list : List String) : Prop :=
  ∃ stem e, IsLastSegment (stem ++ e) path.toList ∧ (∃ c ∈ stem, c ≠ '.') ∧ IsExtension e ∧
    ∃ x ∈ list, lower (String.ofList e) = lower x

variable {c : Char} {segment stem e tail path : List Char}

theorem isExtension_cons : IsExtension (c :: tail) ↔ c = '.' ∧ '.' ∉ tail := by
  constructor
  · rintro ⟨h⟩
    exact ⟨rfl, h⟩
  · rintro ⟨rfl, h⟩
    exact .dot h

theorem not_isExtension_nil : ¬IsExtension [] := nofun

instance : DecidablePred IsExtension
  | [] => isFalse not_isExtension_nil
  | _ :: _ => decidable_of_iff _ isExtension_cons.symm

theorem isLastSegment_afterLast (path : List Char) : IsLastSegment (afterLast '/' path) path := by
  by_cases h : '/' ∈ path
  · obtain ⟨directory, segment, rfl, hsegment⟩ := exists_afterLast h
    rw [afterLast_append hsegment]
    exact ⟨hsegment, .inr ⟨directory, rfl⟩⟩
  · rw [afterLast_of_not_mem h]
    exact ⟨h, .inl rfl⟩

theorem IsLastSegment.eq (h : IsLastSegment segment path) : segment = afterLast '/' path := by
  rcases h.ends with rfl | ⟨directory, rfl⟩
  · exact (afterLast_of_not_mem h.noSlash).symm
  · exact (afterLast_append h.noSlash directory).symm

/-! ### The extension of a file name -/

theorem suffix_of_not_mem (h : '.' ∉ segment) : suffix segment = [] := by
  have hcontains : segment.contains '.' = false := by
    rw [List.contains_eq_mem]
    exact decide_eq_false h
  rw [suffix, hcontains]
  rfl

theorem suffix_append (he : IsExtension e) :
    suffix (stem ++ e) = if stem.any (· != '.') then e else [] := by
  obtain @⟨tail, htail⟩ := he
  have hlength : (stem ++ '.' :: tail).length - (tail.length + 1) = stem.length := by
    simp
  have hcontains : (stem ++ '.' :: tail).contains '.' = true := by
    simp
  rw [suffix, afterLast_append htail, hlength, List.take_left' rfl, hcontains]
  rfl

/-- A file name has one extension at most. -/
theorem IsExtension.eq_of_append {stem' e' : List Char} (he : IsExtension e)
    (he' : IsExtension e') (h : stem ++ e = stem' ++ e') : stem = stem' ∧ e = e' := by
  obtain @⟨tail, htail⟩ := he
  obtain @⟨tail', htail'⟩ := he'
  have hafter : tail = tail' := by
    rw [← afterLast_append htail stem, h, afterLast_append htail' stem']
  subst hafter
  exact ⟨List.append_cancel_right h, rfl⟩

/-- A file name holds no dot, or is something and an extension. -/
theorem exists_isExtension (segment : List Char) :
    '.' ∉ segment ∨ ∃ stem e, segment = stem ++ e ∧ IsExtension e := by
  by_cases h : '.' ∈ segment
  · obtain ⟨stem, tail, rfl, htail⟩ := exists_afterLast h
    exact .inr ⟨stem, '.' :: tail, rfl, .dot htail⟩
  · exact .inl h

theorem IsExtension.dot_mem (he : IsExtension e) : '.' ∈ stem ++ e := by
  obtain ⟨htail⟩ := he
  exact List.mem_append_right stem List.mem_cons_self

/-- The extension of a file name is what it splits off, if not all before it is dots. -/
theorem suffix_eq_iff (he : IsExtension e) :
    suffix segment = e ↔ ∃ stem, segment = stem ++ e ∧ ∃ c ∈ stem, c ≠ '.' := by
  have hne : ¬[] = e := by
    rintro rfl
    exact not_isExtension_nil he
  rcases exists_isExtension segment with h | ⟨stem, e', rfl, he'⟩
  · rw [suffix_of_not_mem h]
    refine iff_of_false hne ?_
    rintro ⟨stem, rfl, -⟩
    exact h he.dot_mem
  · rw [suffix_append he']
    constructor
    · intro h
      split at h
      · rename_i hany
        obtain ⟨c, hc, hdot⟩ := List.any_eq_true.mp hany
        exact ⟨stem, by rw [h], c, hc, bne_iff_ne.mp hdot⟩
      · exact absurd h hne
    · rintro ⟨stem', heq, c, hc, hdot⟩
      obtain ⟨rfl, rfl⟩ := he'.eq_of_append he heq
      have hany : stem.any (· != '.') = true := List.any_eq_true.mpr ⟨c, hc, bne_iff_ne.mpr hdot⟩
      rw [if_pos hany]

/-- A file name has no extension, or a proper one. -/
theorem suffix_cases (segment : List Char) :
    suffix segment = [] ∨ IsExtension (suffix segment) := by
  rcases exists_isExtension segment with h | ⟨stem, e, rfl, he⟩
  · exact .inl (suffix_of_not_mem h)
  · rw [suffix_append he]
    split
    · exact .inr he
    · exact .inl rfl

/-! ### Extensions in lower case -/

/-- Lower case makes no extension of what is none, and leaves what is one. -/
theorem isExtension_lowerAfter {before s : List Char} :
    IsExtension (lowerAfter before s) ↔ IsExtension s := by
  cases s with
  | nil => exact Iff.rfl
  | cons c tail =>
    rw [lowerAfter_cons]
    by_cases hc : c = '.'
    · subst hc
      rw [lowerForm_dot, List.singleton_append, isExtension_cons, isExtension_cons,
        dot_mem_lowerAfter]
    · have hdot : '.' ∉ lowerForm before c tail := mt dot_mem_lowerForm.mp hc
      refine iff_of_false ?_ fun h => hc (isExtension_cons.mp h).1
      cases hform : lowerForm before c tail with
      | nil =>
        rcases lowerForm_cases before c tail with ⟨-, hf | hf⟩ | ⟨-, hf⟩ | ⟨-, -, hf⟩ <;>
          rw [hform] at hf <;> cases hf
      | cons d others =>
        rw [hform] at hdot
        exact fun h => hdot ((isExtension_cons.mp h).1 ▸ List.mem_cons_self)

theorem isExtension_lower {s : String} : IsExtension (lower s).toList ↔ IsExtension s.toList := by
  rw [lower, String.toList_ofList, isExtension_lowerAfter]

theorem isExtension_extensionOf {p : String} :
    IsExtension (extensionOf p).toList ↔ IsExtension (suffix (afterLast '/' p.toList)) := by
  rw [extensionOf, isExtension_lower, String.toList_ofList]

theorem map_lower_lowerAll (list : List String) : (lowerAll list).map lower = list.map lower := by
  rw [lowerAll, List.map_map]
  exact List.map_congr_left fun x _ => lower_lower x

theorem resolveExtensions_list (list : List String) :
    resolveExtensions (.list (list.map .text)) = .ok (lowerAll list) := by
  rw [resolveExtensions, extensionItems, items?]
  induction list with
  | nil => rfl
  | cons x rest ih =>
    simp only at ih
    simp only [List.map_cons, List.mapM_cons, ih]
    rfl

/-! ### Templates -/

/-- A file without an extension is no template. -/
theorem isEligible_of_suffix_nil {p : String} {extensions : List String}
    (h : suffix (afterLast '/' p.toList) = []) : isEligible p extensions = false := by
  have hempty : extensionOf p = "" := by
    rw [extensionOf, h]
    rfl
  rw [isEligible, hempty]
  rfl

theorem isEligible_lowerAll_iff (p : String) (list : List String) :
    isEligible p (lowerAll list) = true ↔
      IsExtension (suffix (afterLast '/' p.toList)) ∧ ∃ x ∈ list, extensionOf p = lower x := by
  rcases suffix_cases (afterLast '/' p.toList) with h | h
  · rw [isEligible_of_suffix_nil h, h]
    exact iff_of_false Bool.false_ne_true fun h => not_isExtension_nil h.1
  · have hnonempty : (extensionOf p).isEmpty = false := by
      rw [Bool.eq_false_iff]
      intro hempty
      have hextension : IsExtension (extensionOf p).toList := isExtension_extensionOf.mpr h
      rw [String.isEmpty_iff.mp hempty] at hextension
      exact not_isExtension_nil hextension
    rw [isEligible, map_lower_lowerAll, hnonempty, Bool.not_false, Bool.true_and,
      List.contains_iff_mem, List.mem_map]
    refine ⟨fun ⟨x, hx, heq⟩ => ⟨h, x, hx, heq.symm⟩, fun ⟨_, x, hx, heq⟩ => ⟨x, hx, heq.symm⟩⟩

theorem isEligible_lowerAll_iff_matches (p : String) (list : List String) :
    isEligible p (lowerAll list) = true ↔ Matches p list := by
  rw [isEligible_lowerAll_iff]
  constructor
  · rintro ⟨he, hlist⟩
    obtain ⟨stem, hsegment, hstem⟩ := (suffix_eq_iff he).mp rfl
    exact ⟨stem, _, hsegment ▸ isLastSegment_afterLast p.toList, hstem, he, hlist⟩
  · rintro ⟨stem, e, hsegment, hstem, he, hlist⟩
    have hsuffix : suffix (afterLast '/' p.toList) = e :=
      (suffix_eq_iff he).mpr ⟨stem, hsegment.eq.symm, hstem⟩
    rw [extensionOf, hsuffix]
    exact ⟨he, hlist⟩

/-! ### What does not matter -/

theorem isEligible_directory {name : String} (h : '/' ∉ name.toList) (directory : String)
    (extensions : List String) :
    isEligible (directory ++ "/" ++ name) extensions = isEligible name extensions := by
  have hpath : (directory ++ "/" ++ name).toList = directory.toList ++ '/' :: name.toList := by
    simp
  have hextension : extensionOf (directory ++ "/" ++ name) = extensionOf name := by
    rw [extensionOf, extensionOf, hpath, afterLast_append h, afterLast_of_not_mem h]
  rw [isEligible, isEligible, hextension]

/-- Dots that a name begins with make no extension of the rest. -/
theorem suffix_dots {dots name : List Char} (hdots : ∀ c ∈ dots, c = '.') (hname : '.' ∉ name) :
    suffix (dots ++ name) = [] := by
  rcases suffix_cases (dots ++ name) with h | h
  · exact h
  · exfalso
    obtain ⟨stem, hsegment, c, hc, hdot⟩ := (suffix_eq_iff h).mp rfl
    generalize suffix (dots ++ name) = e at h hsegment
    obtain @⟨tail, htail⟩ := h
    rcases List.append_eq_append_iff.mp hsegment with ⟨others, rfl, rfl⟩ | ⟨others, hstem, -⟩
    · exact absurd (List.mem_append_right others List.mem_cons_self) hname
    · exact absurd (hdots c (hstem ▸ List.mem_append_left others hc)) hdot

theorem isEligible_filter (p : String) (list : List String) :
    isEligible p (lowerAll (list.filter (IsExtension ·.toList))) =
      isEligible p (lowerAll list) := by
  rw [Bool.eq_iff_iff, isEligible_lowerAll_iff, isEligible_lowerAll_iff]
  refine and_congr_right fun hsuffix => ?_
  have hextension : IsExtension (extensionOf p).toList := isExtension_extensionOf.mpr hsuffix
  constructor
  · rintro ⟨x, hx, heq⟩
    exact ⟨x, (List.mem_filter.mp hx).1, heq⟩
  · rintro ⟨x, hx, heq⟩
    rw [heq, isExtension_lower] at hextension
    exact ⟨x, List.mem_filter.mpr ⟨hx, decide_eq_true hextension⟩, heq⟩

theorem suffix_map_toLower (segment : List Char) :
    suffix (segment.map Char.toLower) = (suffix segment).map Char.toLower := by
  have hdot (s : List Char) : '.' ∈ s.map Char.toLower ↔ '.' ∈ s := by
    simp [toLower_eq_iff]
  rcases exists_isExtension segment with h | ⟨stem, e, rfl, he⟩
  · rw [suffix_of_not_mem h, suffix_of_not_mem (mt (hdot segment).mp h)]
    rfl
  · have hany : (stem.map Char.toLower).any (· != '.') = stem.any (· != '.') := by
      rw [List.any_map, bne_comp (toLower_eq_iff (by decide))]
    have he' : IsExtension (e.map Char.toLower) := by
      obtain @⟨tail, htail⟩ := he
      exact .dot (mt (hdot tail).mp htail)
    rw [List.map_append, suffix_append he', suffix_append he, hany]
    split
    · rfl
    · rfl

theorem extensionOf_eq_of_toLower {p p' : String} (h : p'.toLower = p.toLower) :
    extensionOf p' = extensionOf p := by
  have hslash : '/' ∈ ['.', '/'] := by decide
  apply lower_eq_of_toLower
  rw [toLower_eq_toLower, String.toList_ofList, String.toList_ofList, ← suffix_map_toLower,
    ← suffix_map_toLower, ← afterLast_map (toLower_eq_iff hslash),
    ← afterLast_map (toLower_eq_iff hslash), toLower_eq_toLower.mp h]

theorem map_lower_eq_of_toLower {list list' : List String}
    (h : list'.map String.toLower = list.map String.toLower) :
    list'.map lower = list.map lower := by
  have hlower (xs : List String) : (xs.map String.toLower).map lower = xs.map lower := by
    rw [List.map_map]
    exact List.map_congr_left fun x _ => lower_toLower x
  rw [← hlower list', h, hlower list]

/-- By a list of extensions a file is a template exactly if its name is a stem with one of them.
The directory does not count, nor do the dots that a name begins with, nor an item of the list that
is empty, begins with no dot or holds a second one, nor the case of a letter. -/
theorem isEligible_resolveExtensions (p : String) (list : List String) :
    resolveExtensions (.list (list.map .text)) = .ok (lowerAll list) ∧
      (isEligible p (lowerAll list) = true ↔ Matches p list) ∧
      (∀ directory name : String, '/' ∉ name.toList → p = directory ++ "/" ++ name →
        isEligible p (lowerAll list) = isEligible name (lowerAll list)) ∧
      (∀ dots name : List Char, (∀ c ∈ dots, c = '.') → '.' ∉ name →
        IsLastSegment (dots ++ name) p.toList → isEligible p (lowerAll list) = false) ∧
      isEligible p (lowerAll (list.filter (IsExtension ·.toList))) = isEligible p (lowerAll list) ∧
      ∀ (p' : String) (list' : List String), p'.toLower = p.toLower →
        list'.map String.toLower = list.map String.toLower →
        isEligible p' (lowerAll list') = isEligible p (lowerAll list) := by
  refine ⟨resolveExtensions_list list, isEligible_lowerAll_iff_matches p list, ?directory, ?dots,
    isEligible_filter p list, ?letters⟩
  case directory =>
    rintro directory name hname rfl
    exact isEligible_directory hname directory (lowerAll list)
  case dots =>
    intro dots name hdots hname hsegment
    apply isEligible_of_suffix_nil
    rw [← hsegment.eq, suffix_dots hdots hname]
  case letters =>
    intro p' list' hp hlist
    rw [isEligible, isEligible, map_lower_lowerAll, map_lower_lowerAll,
      extensionOf_eq_of_toLower hp, map_lower_eq_of_toLower hlist]

theorem isEligible_resolveExtensions_edges :
    isEligible "x.y/..b.TWIG" (lowerAll [".Twig", "html"]) =
        isEligible "..b.TWIG" (lowerAll [".Twig", "html"]) ∧
      isEligible "a.b/..twig" (lowerAll [".twig"]) = false ∧
      isEligible "A.TWIG" (lowerAll [".Html", ".TWIG"]) =
        isEligible "a.Twig" (lowerAll [".html", ".twig"]) :=
  ⟨(isEligible_resolveExtensions "x.y/..b.TWIG" [".Twig", "html"]).2.2.1 "x.y" "..b.TWIG"
      (by decide +kernel) rfl,
    (isEligible_resolveExtensions "a.b/..twig" [".twig"]).2.2.2.1 ['.', '.'] "twig".toList
      (by simp) (by decide +kernel)
      ⟨by decide +kernel, .inr ⟨"a.b".toList, by decide +kernel⟩⟩,
    (isEligible_resolveExtensions "a.Twig" [".html", ".twig"]).2.2.2.2.2 "A.TWIG" [".Html", ".TWIG"]
      (toLower_eq_toLower.mpr (by decide +kernel))
      (by simp only [List.map_cons, List.map_nil, toLower_eq_toLower, List.cons.injEq, and_true]
          decide +kernel)⟩

example :
    (["..twig", "a.", "/x.y/z", "a/.twig", "a.b/...a.Twig", "a.twig"].map fun p =>
      isEligible p (lowerAll ["", "twig", ".a.twig", ".TWIG", "."])) =
      [false, true, false, false, true, true] := by
  decide +kernel

end Stencil.Path
