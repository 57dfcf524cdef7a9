import Stencil.Proofs.Tree.Printing

/-!
What one event does to a construction. The names of the open blocks decide the role of a statement,
and whatever is under construction, an event leads to one of six steps. So what is to hold on every
stream is shown step by step.
-/
namespace Stencil.Tree

open Text

inductive Role where
  | leaf
  | opening
  | branch
  deriving DecidableEq, Repr

/-- The role of a statement that is read where blocks of these names are open, innermost first. The
end of the innermost block has none. -/
def Head.role? (tags : List Units) (h : Head) : Option Role :=
  match tags with
  | tag :: _ =>
    if h.ends tag then none
    else if branchTags.contains h.tag then some .branch
    else if h.opensBlock then some .opening
    else some .leaf
  | [] => if h.opensBlock then some .opening else some .leaf

structure Standing where
  head : Head
  role : Role
  depth : Nat
  deriving DecidableEq, Repr

/-- The statements of a stream that stay, read where blocks of these names are open. -/
def standingsFrom (tags : List Units) : List Event → List Standing
  | [] => []
  | .statement h :: rest =>
    match h.role? tags with
    | none => standingsFrom tags.tail rest
    | some .opening => ⟨h, .opening, tags.length⟩ :: standingsFrom (h.tag :: tags) rest
    | some role => ⟨h, role, tags.length⟩ :: standingsFrom tags rest
  | .text _ :: rest | .output _ :: rest => standingsFrom tags rest

/-- The names of the open blocks, innermost first. -/
def Growth.tags (g : Growth) : List Units := g.frames.map fun f => f.head.tag

inductive Grows : Growth → Event → Growth → Prop
  | text {level frames value} : Grows ⟨level, frames⟩ (.text value) ⟨addText value level, frames⟩
  | output {level frames stack} :
      Grows ⟨level, frames⟩ (.output stack) ⟨.output stack :: level, frames⟩
  | closing {level f outer h} (hr : h.role? (Growth.tags ⟨level, f :: outer⟩) = none) :
      Grows ⟨level, f :: outer⟩ (.statement h) ⟨f.close level, outer⟩
  | branch {level f outer h} (hr : h.role? (Growth.tags ⟨level, f :: outer⟩) = some .branch) :
      Grows ⟨level, f :: outer⟩ (.statement h) ⟨[], f.nextBranch level h :: outer⟩
  | opening {level frames h} (hr : h.role? (Growth.tags ⟨level, frames⟩) = some .opening) :
      Grows ⟨level, frames⟩ (.statement h) ⟨[], .opened h level :: frames⟩
  | leaf {level frames h} (hr : h.role? (Growth.tags ⟨level, frames⟩) = some .leaf) :
      Grows ⟨level, frames⟩ (.statement h) ⟨.leaf h :: level, frames⟩

theorem grows_add (g : Growth) (e : Event) : Grows g e (g.add e) := by
  obtain ⟨level, frames⟩ := g
  cases e with
  | text value => exact .text
  | output stack => exact .output
  | statement h =>
    cases frames with
    | nil =>
      simp only [Growth.add]
      split
      · exact .opening (by simp [Head.role?, Growth.tags, *])
      · exact .leaf (by simp [Head.role?, Growth.tags, *])
    | cons f outer =>
      simp only [Growth.add]
      split
      · exact .closing (by simp [Head.role?, Growth.tags, *])
      split
      · exact .branch (by simp_all [Head.role?, Growth.tags])
      split
      · exact .opening (by simp_all [Head.role?, Growth.tags])
      · exact .leaf (by simp_all [Head.role?, Growth.tags])

section Role

variable {tags : List Units} {h : Head}

theorem Head.opens_of_role? (hr : h.role? tags = some .opening) : h.Opens := by
  rw [← Head.opensBlock_iff]
  cases tags with
  | nil =>
    rw [role?] at hr
    split at hr
    · assumption
    · cases hr
  | cons tag outer =>
    rw [role?] at hr
    split at hr
    · cases hr
    split at hr
    · cases hr
    split at hr
    · assumption
    · cases hr

theorem Head.mem_branchTags_of_role? (hr : h.role? tags = some .branch) : h.tag ∈ branchTags := by
  rw [← List.contains_iff_mem]
  cases tags with
  | nil =>
    rw [role?] at hr
    split at hr <;> cases hr
  | cons tag outer =>
    rw [role?] at hr
    split at hr
    · cases hr
    split at hr
    · assumption
    split at hr <;> cases hr

/-- Inside a block, no branch is a leaf. -/
theorem Head.tags_eq_nil_of_role? (hr : h.role? tags = some .leaf) (hb : h.tag ∈ branchTags) :
    tags = [] := by
  cases tags with
  | nil => rfl
  | cons tag outer =>
    rw [role?, if_pos (List.contains_iff_mem.mpr hb)] at hr
    split at hr <;> cases hr

end Role

/-- What holds of a construction and is kept by every step holds after any events. -/
theorem foldl_add_induction {P : Growth → Prop} {g : Growth} (h : P g)
    (hstep : ∀ g e g', Grows g e g' → P g → P g') (es : List Event) :
    P (es.foldl Growth.add g) := by
  induction es generalizing g with
  | nil => exact h
  | cons e es ih => exact ih (hstep g e _ (grows_add g e) h)

end Stencil.Tree
