import Stencil.Proofs.Text.Units
import Stencil.Proofs.Tree.Apart
import Stencil.Proofs.Tree.Standing

/-!
The shape of a folded tree, on any stream. What the module holds of a statement, a list of nodes or
branches, tells the role in which the statement was read.
-/
namespace Stencil

namespace Text

theorem units_injective : Function.Injective units := by
  intro s t h
  have hchars := congrArg charsOfUnits? h
  rw [units, units, charsOfUnits?_unitsOfChars, charsOfUnits?_unitsOfChars] at hchars
  exact String.ext (Option.some.inj hchars)

end Text

open Text

/-- A field of an object whose field names are written out. -/
theorem Json.field?_record (name : String) (fields : List (String × Json)) :
    (Json.record fields).field? name = (fields.find? fun f => f.1 == name).map Prod.snd := by
  have hname (f : String × Json) : (units f.1 == units name) = (f.1 == name) := by
    rw [Bool.eq_iff_iff, beq_iff_eq, beq_iff_eq, units_injective.eq_iff]
  simp [Json.record, Json.field?, List.find?_map, Function.comp_def, hname]

namespace Tree

def Held.HasOutput (t : Held) : Prop := ∃ nodes, t.record.field? "output" = some (.list nodes)

/-- The record has a list of branches, and another record is an entry of it. -/
def Held.Lists (t : Held) (entry : Json) : Prop :=
  ∃ entries, t.record.field? "branches" = some (.list entries) ∧ entry ∈ entries

theorem branchesJson_eq (branches : List Branch) :
    branchesJson branches = branches.map Branch.toJson := by
  induction branches with
  | nil => rfl
  | cons b rest ih => rw [branchesJson, ih, List.map_cons]

section Records

variable (head : Head) (output : List Node) (branches : List Branch)

theorem record_leaf : (Node.leaf head).record = .record head.fields := by
  simp [Node.record, Node.toJson, logicRecord, Json.field?_record]

theorem record_block :
    (Node.block head output branches).record =
      .record (head.fields ++ [("output", .list (nodesJson output))] ++
        if branches = [] then [] else [("branches", .list (branches.map Branch.toJson))]) := by
  rw [← branchesJson_eq]
  cases branches <;> simp [Node.record, Node.toJson, logicRecord, Json.field?_record]

theorem fields_leaf :
    (Node.leaf head).record.field? "type" = some (.text head.tag) ∧
      (Node.leaf head).record.field? "output" = none ∧
      (Node.leaf head).record.field? "branches" = none := by
  simp [record_leaf, Json.field?_record, Head.fields]

theorem fields_block :
    let record := (Node.block head output branches).record
    record.field? "type" = some (.text head.tag) ∧
      record.field? "output" = some (.list (nodesJson output)) ∧
      record.field? "branches" =
        if branches = [] then none else some (.list (branches.map Branch.toJson)) := by
  cases branches <;> simp [record_block, Json.field?_record, Head.fields]

theorem fields_branch :
    let record := (Branch.mk head output).toJson
    record.field? "type" = some (.text head.tag) ∧
      record.field? "output" = some (.list (nodesJson output)) ∧
      record.field? "branches" = none := by
  simp [Branch.toJson, Json.field?_record, Head.fields]

end Records

inductive Held.Form (all : List Held) : Held → Prop
  | leaf {head depth} : Form all ⟨⟨head, .leaf, depth⟩, (Node.leaf head).record⟩
  | block {head output branches depth}
      (h : ∀ b ∈ branches, ∃ t ∈ all, t.role = .branch ∧ t.head = b.head) :
      Form all ⟨⟨head, .opening, depth⟩, (Node.block head output branches).record⟩
  | branch {head output depth} (h : ∃ t ∈ all, t.Lists (Branch.mk head output).toJson) :
      Form all ⟨⟨head, .branch, depth⟩, (Branch.mk head output).toJson⟩

theorem held_mem_branchesHeld {b : Branch} {branches : List Branch} (h : b ∈ branches)
    (depth : Nat) :
    (⟨⟨b.head, .branch, depth⟩, b.toJson⟩ : Held) ∈ branchesHeld depth branches := by
  induction branches with
  | nil => cases h
  | cons c rest ih =>
    rw [branchesHeld]
    rcases List.mem_cons.mp h with rfl | h
    · cases b
      exact List.mem_append_left _ List.mem_cons_self
    · exact List.mem_append_right _ (ih h)

mutual

theorem Node.held_form (n : Node) (depth : Nat) (all : List Held) (h : n.held depth ⊆ all) :
    ∀ t ∈ n.held depth, t.Form all := by
  match n with
  | .raw _ | .output _ => exact nofun
  | .leaf head =>
    intro t ht
    obtain rfl := List.mem_singleton.mp ht
    exact .leaf
  | .block head output branches =>
    obtain ⟨hblock, hinner⟩ := List.cons_subset.mp h
    obtain ⟨houtput, hbranches⟩ := List.append_subset.mp hinner
    refine List.forall_mem_cons.mpr ⟨.block fun b hb => ?_, List.forall_mem_append.mpr ⟨?_, ?_⟩⟩
    · exact ⟨_, hbranches (held_mem_branchesHeld hb (depth + 1)), rfl, rfl⟩
    · exact nodesHeld_form output (depth + 1) all houtput
    · refine branchesHeld_form branches (depth + 1) all hbranches fun b hb => ?_
      have hne : branches ≠ [] := List.ne_nil_of_mem hb
      have hfield := (fields_block head output branches).2.2
      rw [if_neg hne] at hfield
      exact ⟨_, hblock, _, hfield, List.mem_map_of_mem hb⟩

theorem nodesHeld_form (nodes : List Node) (depth : Nat) (all : List Held)
    (h : nodesHeld depth nodes ⊆ all) : ∀ t ∈ nodesHeld depth nodes, t.Form all := by
  match nodes with
  | [] => exact nofun
  | n :: rest =>
    obtain ⟨hn, hrest⟩ := List.append_subset.mp h
    exact List.forall_mem_append.mpr
      ⟨n.held_form depth all hn, nodesHeld_form rest depth all hrest⟩

theorem branchesHeld_form (branches : List Branch) (depth : Nat) (all : List Held)
    (h : branchesHeld depth branches ⊆ all)
    (hentry : ∀ b ∈ branches, ∃ t ∈ all, t.Lists b.toJson) :
    ∀ t ∈ branchesHeld depth branches, t.Form all := by
  match branches with
  | [] => exact nofun
  | .mk head output :: rest =>
    obtain ⟨hb, hrest⟩ := List.append_subset.mp h
    obtain ⟨hfirst, hothers⟩ := List.forall_mem_cons.mp hentry
    refine List.forall_mem_append.mpr ⟨List.forall_mem_cons.mpr ⟨.branch hfirst, ?_⟩, ?_⟩
    · exact nodesHeld_form output depth all (List.cons_subset.mp hb).2
    · exact branchesHeld_form rest depth all hrest hothers

end

section Form

variable {all : List Held} {t : Held}

theorem Held.Form.tag (h : t.Form all) : t.record.field? "type" = some (.text t.head.tag) := by
  cases h with
  | leaf => exact (fields_leaf _).1
  | block => exact (fields_block ..).1
  | branch => exact (fields_branch ..).1

theorem Held.Form.hasOutput_iff (h : t.Form all) : t.HasOutput ↔ t.role ≠ .leaf := by
  cases h with
  | leaf => simp [HasOutput, fields_leaf]
  | block => exact iff_of_true ⟨_, (fields_block ..).2.1⟩ nofun
  | branch => exact iff_of_true ⟨_, (fields_branch ..).2.1⟩ nofun

theorem Held.Form.branches (h : t.Form all) {value : Json}
    (hv : t.record.field? "branches" = some value) :
    t.role = .opening ∧ ∃ branches : List Branch, branches ≠ [] ∧
      value = .list (branches.map Branch.toJson) ∧
      ∀ b ∈ branches, ∃ t ∈ all, t.role = .branch ∧ t.head = b.head := by
  cases h with
  | leaf => simp [fields_leaf] at hv
  | @block head output branches _ hbranches =>
    rw [(fields_block head output branches).2.2] at hv
    split at hv
    · cases hv
    · exact ⟨rfl, branches, ‹_›, (Option.some.inj hv).symm, hbranches⟩
  | branch => simp [fields_branch] at hv

theorem Held.Form.entry (h : t.Form all) (hr : t.role = .branch) :
    ∃ block ∈ all, block.Lists t.record := by
  cases h with
  | leaf | block => cases hr
  | branch h => exact h

/-- An entry of branches has nodes. -/
theorem Held.Form.hasOutput_of_lists {block : Held} (h : block.Form all)
    (hlists : block.Lists t.record) : t.HasOutput := by
  obtain ⟨entries, hentries, hmem⟩ := hlists
  obtain ⟨-, branches, -, hvalue, -⟩ := h.branches hentries
  cases hvalue
  obtain ⟨⟨head, output⟩, -, heq⟩ := List.mem_map.mp hmem
  rw [HasOutput, ← heq]
  exact ⟨_, (fields_branch head output).2.1⟩

end Form

/-- A tree has the shape of the statements that a stream leaves in it. -/
structure Shaped (read : List Standing) (tree : List Node) : Prop where
  /-- Text never stands beside text, in any list. -/
  apart : ∀ list ∈ tree :: nodesLists tree, Apart list
  /-- The statements of the tree are those, in their roles and at their depths. -/
  statements : (nodesHeld 0 tree).map (·.toStanding) = read
  tag : ∀ t ∈ nodesHeld 0 tree, t.record.field? "type" = some (.text t.head.tag)
  /-- Exactly the statements that opened a block and the entries of branches have nodes. -/
  output : ∀ t ∈ nodesHeld 0 tree,
    t.HasOutput ↔ t.role = .opening ∨ ∃ block ∈ nodesHeld 0 tree, block.Lists t.record
  /-- Only a statement that opened a block has branches. -/
  branches : ∀ t ∈ nodesHeld 0 tree, ∀ value, t.record.field? "branches" = some value →
    t.role = .opening ∧ ∃ entries, value = .list entries ∧ entries ≠ [] ∧
      ∀ entry ∈ entries, (∃ tag ∈ branchTags, entry.field? "type" = some (.text tag)) ∧
        (∃ nodes, entry.field? "output" = some (.list nodes)) ∧ entry.field? "branches" = none
  opens : ∀ t ∈ nodesHeld 0 tree, t.role = .opening → t.head.Opens
  /-- A branch without nodes stands outside of all blocks. -/
  stray : ∀ t ∈ nodesHeld 0 tree, t.head.tag ∈ branchTags → ¬t.HasOutput → t.depth = 0

theorem shaped_foldEvents (es : List Event) :
    Shaped (standingsFrom [] es) (foldEvents es) := by
  have hform := nodesHeld_form (foldEvents es) 0 _ (List.Subset.refl _)
  refine ⟨allApart_foldEvents es, standings_foldEvents es, fun t ht => (hform t ht).tag,
    fun t ht => ⟨?_, ?_⟩, fun t ht value hv => ?_, fun t ht => opens_of_held ht,
    fun t ht hb ho => ?_⟩
  · intro ho
    have hne := (hform t ht).hasOutput_iff.mp ho
    cases hr : t.role with
    | leaf => exact absurd hr hne
    | opening => exact .inl rfl
    | branch => exact .inr ((hform t ht).entry hr)
  · rintro (hr | ⟨block, hblock, hlists⟩)
    · exact (hform t ht).hasOutput_iff.mpr (by rw [hr]; nofun)
    · exact (hform block hblock).hasOutput_of_lists hlists
  · obtain ⟨hr, branches, hne, rfl, hentries⟩ := (hform t ht).branches hv
    refine ⟨hr, _, rfl, mt List.map_eq_nil_iff.mp hne, fun entry hentry => ?_⟩
    obtain ⟨⟨head, output⟩, hb, rfl⟩ := List.mem_map.mp hentry
    obtain ⟨e, he, her, heb⟩ := hentries _ hb
    obtain ⟨tags, hrole, -⟩ := role_of_held he
    have hbranch := Head.mem_branchTags_of_role? (hrole.trans (congrArg some her))
    rw [heb] at hbranch
    obtain ⟨htag, houtput, hnone⟩ := fields_branch head output
    exact ⟨⟨_, hbranch, htag⟩, ⟨_, houtput⟩, hnone⟩
  · obtain ⟨tags, hrole, hdepth⟩ := role_of_held ht
    have hr : t.role = .leaf := by
      by_contra hne
      exact ho ((hform t ht).hasOutput_iff.mpr hne)
    rw [hdepth, Head.tags_eq_nil_of_role? (hrole.trans (congrArg some hr)) hb, List.length_nil]

/-- Folding a stream gives a tree of the shape of its statements; only a name that cannot be
converted to text keeps a stream from having a tree. -/
theorem shaped_foldTokens (ts : List Token) (hd : TextData ts) :
    ((∃ tree, foldTokens ts = some tree) ↔ ∀ group ∈ segments ts, group.Named) ∧
      ∀ tree, foldTokens ts = some tree →
        ∃ es, (segments ts).mapM Group.event = some es ∧ Shaped (standingsFrom [] es) tree := by
  refine ⟨exists_foldTokens_iff hd, ?_⟩
  intro tree htree
  obtain ⟨es, hes, rfl⟩ := exists_segments_of_foldTokens htree
  exact ⟨es, hes, shaped_foldEvents es⟩

/-- A block with two last branches, text in two pieces, and a stray branch. -/
theorem shaped_foldTokens_branches :
    let ts : List Token :=
      [(1, "block_begin", ""), (1, "name", "if"), (1, "block_end", ""), (1, "data", "a"),
        (2, "data", "b"), (2, "block_begin", ""), (2, "name", "else"), (2, "block_end", ""),
        (3, "block_begin", ""), (3, "name", "else"), (3, "block_end", ""),
        (4, "block_begin", ""), (4, "name", "endif"), (4, "block_end", ""),
        (5, "block_begin", ""), (5, "name", "else"), (5, "block_end", "")].map
          fun (line, kind, value) => .ofString line kind value
    TextData ts ∧ ∃ tree, foldTokens ts = some tree ∧
      Shaped [⟨⟨units "if", 1, []⟩, .opening, 0⟩, ⟨⟨units "else", 2, []⟩, .branch, 1⟩,
        ⟨⟨units "else", 3, []⟩, .branch, 1⟩, ⟨⟨units "else", 5, []⟩, .leaf, 0⟩] tree := by
  intro ts
  have hd : TextData ts := by
    intro t ht _
    obtain ⟨_, _, rfl⟩ := List.mem_map.mp ht
    exact ⟨_, rfl⟩
  obtain ⟨-, hall⟩ := shaped_foldTokens ts hd
  obtain ⟨es, hes, hshaped⟩ := hall _ rfl
  rw [← groups_eq_segments] at hes
  cases hes
  exact ⟨hd, _, rfl, hshaped⟩

end Tree

end Stencil
