import Mathlib.Data.List.Chain
import Stencil.Proofs.Tree.Growth

/-!
Texts stand apart in every list of a folded tree, also in the lists that are still open for writing
while the tree is under construction.
-/
namespace Stencil.Tree

open Text

def Node.IsRaw : Node → Prop
  | .raw _ => True
  | _ => False

/-- No text stands beside another text. -/
def Apart (nodes : List Node) : Prop := nodes.IsChain fun a b => ¬(a.IsRaw ∧ b.IsRaw)

mutual

/-- The lists in a node: bodies of blocks and of branches, at any depth. -/
def Node.lists : Node → List (List Node)
  | .block _ output branches => (output :: nodesLists output) ++ branchesLists branches
  | _ => []

def nodesLists : List Node → List (List Node)
  | [] => []
  | n :: rest => n.lists ++ nodesLists rest

def Branch.lists : Branch → List (List Node)
  | .mk _ output => output :: nodesLists output

def branchesLists : List Branch → List (List Node)
  | [] => []
  | b :: rest => b.lists ++ branchesLists rest

end

theorem nodesLists_eq (nodes : List Node) : nodesLists nodes = nodes.flatMap Node.lists := by
  induction nodes with
  | nil => rfl
  | cons n rest ih => rw [nodesLists, ih, List.flatMap_cons]

theorem branchesLists_eq (branches : List Branch) :
    branchesLists branches = branches.flatMap Branch.lists := by
  induction branches with
  | nil => rfl
  | cons b rest ih => rw [branchesLists, ih, List.flatMap_cons]

/-- In every list among these and in them, texts stand apart. -/
def AllApart (nodes : List Node) : Prop := ∀ list ∈ nodes :: nodesLists nodes, Apart list

/-- In the lists of an open block, texts stand apart, provided that they do in the innermost
list. -/
structure Frame.AllApart (f : Frame) : Prop where
  before : Tree.AllApart f.before
  parts : ∀ level, Tree.AllApart level →
    Tree.AllApart (f.parts level).1 ∧ ∀ b ∈ (f.parts level).2, Tree.AllApart b.output

structure Growth.AllApart (g : Growth) : Prop where
  level : Tree.AllApart g.level
  frames : ∀ f ∈ g.frames, f.AllApart

theorem apart_reverse {nodes : List Node} : Apart nodes.reverse ↔ Apart nodes := by
  rw [Apart, List.isChain_reverse, Apart]
  exact iff_of_eq (congrArg (List.IsChain · nodes) (by funext a b; simp [and_comm]))

theorem allApart_nil : AllApart [] := by
  intro list hlist
  simp only [nodesLists, List.mem_singleton] at hlist
  subst hlist
  exact List.isChain_nil

theorem allApart_reverse {nodes : List Node} : AllApart nodes.reverse ↔ AllApart nodes := by
  simp [AllApart, nodesLists_eq, apart_reverse]

/-- Anything but a text can be put in front of a list. -/
theorem allApart_cons {n : Node} {nodes : List Node} (hraw : ¬n.IsRaw)
    (hn : ∀ list ∈ n.lists, Apart list) (h : AllApart nodes) : AllApart (n :: nodes) := by
  obtain ⟨hnodes, hinner⟩ := List.forall_mem_cons.mp h
  refine List.forall_mem_cons.mpr ⟨?_, fun list hlist => ?_⟩
  · exact List.isChain_cons.mpr ⟨fun m _ hm => hraw hm.1, hnodes⟩
  · rw [nodesLists] at hlist
    exact (List.mem_append.mp hlist).elim (hn list) (hinner list)

theorem allApart_addText (value : Units) {level : List Node} (h : AllApart level) :
    AllApart (addText value level) := by
  obtain ⟨hlevel, hinner⟩ := List.forall_mem_cons.mp h
  have fresh (hfresh : ∀ n ∈ level.head?, ¬n.IsRaw) : AllApart (.raw value :: level) :=
    List.forall_mem_cons.mpr
      ⟨List.isChain_cons.mpr ⟨fun m hm hraw => hfresh m hm hraw.2, hlevel⟩, hinner⟩
  cases level with
  | nil => exact fresh (by simp)
  | cons n rest =>
    cases n with
    | raw before =>
      obtain ⟨hnext, hrest⟩ := List.isChain_cons.mp hlevel
      exact List.forall_mem_cons.mpr ⟨List.isChain_cons.mpr ⟨hnext, hrest⟩, hinner⟩
    | _ => exact fresh (by simp [Node.IsRaw])

/-- A block that is complete is one more node with texts apart. -/
theorem allApart_close {f : Frame} {level : List Node} (hf : f.AllApart) (hl : AllApart level) :
    AllApart (f.close level) := by
  obtain ⟨hbody, hbranches⟩ := hf.parts level hl
  refine allApart_cons id (fun list hlist => ?_) hf.before
  rcases List.mem_append.mp hlist with hlist | hlist
  · exact hbody list hlist
  · rw [branchesLists_eq] at hlist
    obtain ⟨⟨head, output⟩, hb, hlist⟩ := List.mem_flatMap.mp hlist
    exact hbranches _ hb list hlist

theorem Frame.allApart_opened (head : Head) {before : List Node} (h : Tree.AllApart before) :
    (Frame.opened head before).AllApart :=
  ⟨h, fun _ hl => ⟨allApart_reverse.mpr hl, nofun⟩⟩

theorem Frame.AllApart.nextBranch {f : Frame} {level : List Node} (hf : f.AllApart)
    (hl : Tree.AllApart level) (head : Head) : (f.nextBranch level head).AllApart := by
  obtain ⟨hbody, hbranches⟩ := hf.parts level hl
  refine ⟨hf.before, fun inner hinner => ?_⟩
  rw [Frame.nextBranch_parts]
  refine ⟨hbody, fun b hb => ?_⟩
  rcases List.mem_append.mp hb with hb | hb
  · exact hbranches b hb
  · obtain rfl := List.mem_singleton.mp hb
    exact allApart_reverse.mpr hinner

theorem Grows.allApart {g g' : Growth} {e : Event} (h : Grows g e g') (hg : g.AllApart) :
    g'.AllApart := by
  obtain ⟨hl, hf⟩ := hg
  cases h with
  | text => exact ⟨allApart_addText _ hl, hf⟩
  | output | leaf => exact ⟨allApart_cons id (by simp [Node.lists]) hl, hf⟩
  | closing =>
    obtain ⟨hfirst, houter⟩ := List.forall_mem_cons.mp hf
    exact ⟨allApart_close hfirst hl, houter⟩
  | branch =>
    obtain ⟨hfirst, houter⟩ := List.forall_mem_cons.mp hf
    exact ⟨allApart_nil, List.forall_mem_cons.mpr ⟨hfirst.nextBranch hl _, houter⟩⟩
  | opening =>
    exact ⟨allApart_nil, List.forall_mem_cons.mpr ⟨Frame.allApart_opened _ hl, hf⟩⟩

theorem allApart_closeAll {level : List Node} {frames : List Frame} (hl : AllApart level)
    (hf : ∀ f ∈ frames, f.AllApart) : AllApart (closeAll level frames) := by
  induction frames generalizing level with
  | nil => exact allApart_reverse.mpr hl
  | cons f outer ih =>
    obtain ⟨hfirst, houter⟩ := List.forall_mem_cons.mp hf
    exact ih (allApart_close hfirst hl) houter

theorem allApart_foldEvents (es : List Event) : AllApart (foldEvents es) := by
  have h : Growth.AllApart (es.foldl Growth.add ⟨[], []⟩) :=
    foldl_add_induction ⟨allApart_nil, nofun⟩ (fun _ _ _ h => h.allApart) _
  exact allApart_closeAll h.level h.frames

end Stencil.Tree
