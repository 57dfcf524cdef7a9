import Stencil.Path
import Stencil.Proofs.Text.Search

/-!
The names that aliases give to templates. The first alias, in the order of declaration, whose
fragment stands in the path decides: the name is its replacement and what follows the leftmost place
of the fragment. Nothing else of the path is replaced, and no other alias is applied.
-/
namespace Stencil.Path

open Text Options

/-- No fragment of the aliases stands in the path. -/
def Untouched (path : String) (aliases : Aliases) : Prop :=
  ∀ e ∈ aliases, ¬e.1.toList <:+: path.toList

/-- The name of a path under aliases. -/
inductive Renamed (path : String) (aliases : Aliases) : String → Prop
  /-- Without a fragment in the path, the name is the path. -/
  | untouched (h : Untouched path aliases) : Renamed path aliases path
  /-- The first alias with a fragment in the path, at the leftmost place of that fragment. -/
  | aliased (before : Aliases) {search replacement after n}
      (halias : aliases = before ++ (search, replacement) :: after)
      (hbefore : Untouched path before)
      (hplace : IsLeast {n | StandsAt search.toList path.toList n} n) :
      Renamed path aliases
        (replacement ++ String.ofList (path.toList.drop (n + search.length)))

variable {path name search replacement : String} {aliases before : Aliases} {n : Nat}

/-- Aliases whose fragments do not stand in the path are passed over. -/
theorem applyAliases_append (h : Untouched path before) (rest : Aliases) :
    applyAliases path (before ++ rest) = applyAliases path rest := by
  induction before with
  | nil => rfl
  | cons e before ih =>
    obtain ⟨he, hbefore⟩ := List.forall_mem_cons.mp h
    rw [List.cons_append, applyAliases, position?_eq_none.mpr he]
    exact ih hbefore

/-- From its leftmost place on, the path begins with the fragment; so that occurrence is the one
that is replaced. -/
theorem applyAliases_cons (h : IsLeast {n | StandsAt search.toList path.toList n} n)
    (rest : Aliases) :
    applyAliases path ((search, replacement) :: rest) =
      replacement ++ String.ofList (path.toList.drop (n + search.length)) := by
  have hdrop : path.toList.drop n =
      search.toList ++ path.toList.drop (n + search.length) := by
    rw [← List.drop_drop, ← String.length_toList]
    exact (List.prefix_iff_eq_append.mp h.1.2).symm
  rw [applyAliases, position?_eq_some.mpr h]
  simp only
  rw [hdrop, replaceFirst_append, String.ofList_append, String.ofList_toList]

theorem Renamed.cons (h : ¬search.toList <:+: path.toList) (hrest : Renamed path aliases name) :
    Renamed path ((search, replacement) :: aliases) name := by
  cases hrest with
  | untouched hrest => exact .untouched (List.forall_mem_cons.mpr ⟨h, hrest⟩)
  | aliased before halias hbefore hplace =>
    subst halias
    exact .aliased ((search, replacement) :: before) rfl
      (List.forall_mem_cons.mpr ⟨h, hbefore⟩) hplace

theorem renamed_applyAliases (path : String) (aliases : Aliases) :
    Renamed path aliases (applyAliases path aliases) := by
  induction aliases with
  | nil => exact .untouched fun e he => by cases he
  | cons e rest ih =>
    obtain ⟨search, replacement⟩ := e
    cases hp : position? search.toList path.toList with
    | none =>
      rw [applyAliases, hp]
      exact ih.cons (position?_eq_none.mp hp)
    | some n =>
      have hplace := position?_eq_some.mp hp
      rw [applyAliases_cons hplace]
      exact .aliased [] rfl (fun e he => by cases he) hplace

/-- Where names are not left to the module loader, aliases give a path exactly the one name that
they stand for. -/
theorem identifier_eq_literal_iff (path : String) (aliases : Option Aliases) (name : String) :
    identifier path false aliases = .literal name ↔ Renamed path (aliases.getD []) name := by
  have hname : identifier path false aliases = .literal name ↔
      applyAliases path (aliases.getD []) = name := by
    simp [identifier]
  rw [hname]
  constructor
  · rintro rfl
    exact renamed_applyAliases path _
  · intro h
    cases h with
    | untouched h => simpa [applyAliases] using applyAliases_append h []
    | aliased before halias hbefore hplace =>
      rw [halias, applyAliases_append hbefore, applyAliases_cons hplace]

/-- A fragment that overlaps itself, in a path that holds it three times. -/
example : identifier "/aaa/aa" false (some [("ab", "no"), ("aa", "aa/x"), ("/", "no")]) =
    .literal "aa/xa/aa" := by
  decide +kernel

end Stencil.Path
