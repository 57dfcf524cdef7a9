import Stencil.Proofs.Tree.Standing

/-!
Where the blocks of a tree come from. However badly a stream is balanced, folding makes a block of a
statement only if the statement opens one.
-/
namespace Stencil.Tree

open Text

mutual

def Node.Opened : Node → Prop
  | .block head output branches => head.Opens ∧ NodesOpened output ∧ BranchesOpened branches
  | _ => True

def NodesOpened : List Node → Prop
  | [] => True
  | n :: rest => n.Opened ∧ NodesOpened rest

def BranchesOpened : List Branch → Prop
  | [] => True
  | .mk _ output :: rest => NodesOpened output ∧ BranchesOpened rest

end

mutual

theorem Node.opened_of_held (n : Node) (depth : Nat)
    (h : ∀ t ∈ n.held depth, t.role = .opening → t.head.Opens) : n.Opened := by
  match n with
  | .raw _ | .output _ | .leaf _ => exact trivial
  | .block head output branches =>
    obtain ⟨hhead, hinner⟩ := List.forall_mem_cons.mp h
    obtain ⟨houtput, hbranches⟩ := List.forall_mem_append.mp hinner
    exact ⟨hhead rfl, nodesOpened_of_held output (depth + 1) houtput,
      branchesOpened_of_held branches (depth + 1) hbranches⟩

theorem nodesOpened_of_held (nodes : List Node) (depth : Nat)
    (h : ∀ t ∈ nodesHeld depth nodes, t.role = .opening → t.head.Opens) : NodesOpened nodes := by
  match nodes with
  | [] => exact trivial
  | n :: rest =>
    obtain ⟨hn, hrest⟩ := List.forall_mem_append.mp h
    exact ⟨n.opened_of_held depth hn, nodesOpened_of_held rest depth hrest⟩

theorem branchesOpened_of_held (branches : List Branch) (depth : Nat)
    (h : ∀ t ∈ branchesHeld depth branches, t.role = .opening → t.head.Opens) :
    BranchesOpened branches := by
  match branches with
  | [] => exact trivial
  | .mk head output :: rest =>
    obtain ⟨hb, hrest⟩ := List.forall_mem_append.mp h
    exact ⟨nodesOpened_of_held output depth (List.forall_mem_cons.mp hb).2,
      branchesOpened_of_held rest depth hrest⟩

end

/-- Every block of a folded stream, balanced or not, was opened by its statement. -/
theorem nodesOpened_foldTokens {ts : List Token} {tree : List Node}
    (h : foldTokens ts = some tree) : NodesOpened tree := by
  obtain ⟨es, -, rfl⟩ := exists_segments_of_foldTokens h
  exact nodesOpened_of_held _ 0 fun _ => opens_of_held

end Stencil.Tree
