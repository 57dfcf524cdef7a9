import Mathlib
import Stencil.Proofs.Result
import Stencil.Proofs.Tree.Opened
import Stencil.Proofs.Tree.Parts
import Stencil.Proofs.Tree.Preorder
import Stencil.Tree.Tokenize

/-!
The blocks of a folded template and the blocks that the grammar found. Folding looks at the tokens
of a tag only. It pairs the tags as the grammar does, except for an assignment whose body is its
value but whose filters are given an argument by name: the sign of assignment in there makes it a
leaf.
-/
namespace Stencil.Tree

open Text Template

theorem nodesOpened_consNode (n : Node) (nodes : List Node) :
    NodesOpened (consNode n nodes) ↔ n.Opened ∧ NodesOpened nodes := by
  cases n with
  | raw s =>
    cases nodes with
    | nil => rfl
    | cons m rest => cases m <;> simp [consNode, NodesOpened, Node.Opened]
  | _ => rfl

mutual

/-- If every block of the grammar is one in the tree, the assignments are bare. -/
theorem bare_of_opened_item (item : Item) (ps : List Piece) (h : item.Spans ps)
    (ho : (itemNode item).Opened) : ItemBare item := by
  match item with
  | .text .. | .output .. | .tag .. => exact trivial
  | .block line name rest body sections =>
    obtain ⟨opening, inner, others, closing, -, -, hn, hb, hm, -⟩ := h
    obtain ⟨hhead, hbody, hmore⟩ := ho
    exact ⟨(opens_headOf hn).mp hhead, bare_of_opened_items body inner hb hbody,
      bare_of_opened_sections name sections others hm hmore⟩

theorem bare_of_opened_items (items : List Item) (ps : List Piece) (h : ItemsSpan items ps)
    (ho : NodesOpened (itemNodes items)) : ItemsBare items := by
  match items with
  | [] => exact trivial
  | item :: rest =>
    obtain ⟨here, after, -, hh, ha⟩ := h
    obtain ⟨hi, hr⟩ := (nodesOpened_consNode _ _).mp ho
    exact ⟨bare_of_opened_item item here hh hi, bare_of_opened_items rest after ha hr⟩

theorem bare_of_opened_sections (block : String) (sections : List Section) (ps : List Piece)
    (h : SectionsSpan block sections ps) (ho : BranchesOpened (sectionBranches sections)) :
    SectionsBare sections := by
  match sections with
  | [] => exact trivial
  | .mk line name rest body :: more =>
    obtain ⟨opening, inner, others, -, -, -, hb, hm⟩ := h
    exact ⟨bare_of_opened_items body inner hb ho.1,
      bare_of_opened_sections block more others hm ho.2⟩

end

def Head.IsEnd (h : Head) : Prop := endMark <+: h.tag

theorem not_isEnd_of_take {h : Head} (ht : h.tag.take 3 ≠ endMark) : ¬h.IsEnd := by
  rintro ⟨rest, hr⟩
  apply ht
  rw [← hr]
  rfl

theorem mem_preorder_consNode {n : Node} {nodes : List Node} {head : Head}
    (h : .statement head ∈ nodesPreorder (consNode n nodes)) :
    .statement head ∈ n.preorder ∨ .statement head ∈ nodesPreorder nodes := by
  cases n with
  | raw s =>
    cases nodes with
    | nil => simp [consNode, nodesPreorder, Node.preorder] at h
    | cons m rest => cases m <;> simpa [consNode, nodesPreorder, Node.preorder] using h
  | _ => exact List.mem_append.mp h

mutual

/-- The grammar leaves no end of a block behind: each belongs to its block. -/
theorem not_isEnd_item (item : Item) (ps : List Piece) (h : item.Spans ps) (head : Head)
    (hm : .statement head ∈ (itemNode item).preorder) : ¬head.IsEnd := by
  match item with
  | .text .. => simp [itemNode, Node.preorder] at hm
  | .output .. => simp [itemNode, Node.preorder] at hm
  | .tag line name rest =>
    obtain ⟨piece, -, -, hn, -⟩ := h
    obtain ⟨-, -, hend, -⟩ := leafNames_spec name hn
    simp only [itemNode, Node.preorder, List.mem_singleton, Event.statement.injEq] at hm
    subst hm
    exact not_isEnd_of_take hend
  | .block line name rest body sections =>
    obtain ⟨opening, inner, others, closing, -, -, hn, hb, ho, -⟩ := h
    obtain ⟨-, -, hend⟩ := openingNames_spec name hn
    rcases List.mem_cons.mp hm with hm | hm
    · cases hm
      exact not_isEnd_of_take hend
    · rcases List.mem_append.mp hm with hm | hm
      · exact not_isEnd_items body inner hb head hm
      · exact not_isEnd_sections name sections others ho head hm

theorem not_isEnd_items (items : List Item) (ps : List Piece) (h : ItemsSpan items ps)
    (head : Head) (hm : .statement head ∈ nodesPreorder (itemNodes items)) : ¬head.IsEnd := by
  match items with
  | [] => cases hm
  | item :: rest =>
    obtain ⟨here, after, -, hh, ha⟩ := h
    rcases mem_preorder_consNode hm with hm | hm
    · exact not_isEnd_item item here hh head hm
    · exact not_isEnd_items rest after ha head hm

theorem not_isEnd_sections (block : String) (sections : List Section) (ps : List Piece)
    (h : SectionsSpan block sections ps) (head : Head)
    (hm : .statement head ∈ branchesPreorder (sectionBranches sections)) : ¬head.IsEnd := by
  match sections with
  | [] => cases hm
  | .mk line name rest body :: more =>
    obtain ⟨opening, inner, others, -, -, hc, hb, ho⟩ := h
    have hall : ∀ tag ∈ branchTags, tag.take 3 ≠ endMark := by decide
    rcases List.mem_cons.mp hm with hm | hm
    · cases hm
      exact not_isEnd_of_take (hall _ (branchTags_of_continues hc))
    · rcases List.mem_append.mp hm with hm | hm
      · exact not_isEnd_items body inner hb head hm
      · exact not_isEnd_sections block more others ho head hm

end

/-- A tree has the block structure that the grammar found: it is the tree of the parts, no block is
open when the tokens end, and no end of a block is left in it. -/
structure Agrees (items : List Item) (ts : List Token) (tree : List Node) : Prop where
  nodes : tree = itemNodes items
  closed : (Growth.read ⟨[], []⟩ ts).map Growth.frames = some []
  noEnds : ∀ head, .statement head ∈ nodesPreorder tree → ¬head.IsEnd

theorem agrees_foldTokens {items : List Item} {ps : List Piece} {tree : List Node}
    (h : ItemsSpan items ps) (htree : foldTokens (Token.ofPieces ps) = some tree) :
    Agrees items (Token.ofPieces ps) tree ↔ ItemsBare items := by
  constructor
  · intro ha
    apply bare_of_opened_items items ps h
    rw [← ha.nodes]
    exact nodesOpened_foldTokens htree
  · intro hb
    have hn := normal_items none items ps h hb
    have hp := print_items items ps h
    have hnodes : tree = itemNodes items := by
      rw [(foldTokens_print _ hn).2 _ hp] at htree
      exact (Option.some.inj htree).symm
    refine ⟨hnodes, by rw [read_print _ _ hn hp]; rfl, ?_⟩
    rw [hnodes]
    exact not_isEnd_items items ps h

/-- The parts that the grammar finds in a sequence of pieces stand for all of them. The pieces have
a tree, and it agrees with the parts exactly if no assignment with a body has a sign of assignment
in its tag. -/
theorem agrees_of_outline {source : Cut} {items : List Item} (h : outline source = .ok items) :
    ItemsSpan items source.pieces ∧ ∃ tree, foldTokens (Token.ofPieces source.pieces) = some tree ∧
      (Agrees items (Token.ofPieces source.pieces) tree ↔ ItemsBare items) := by
  have hspan := itemsSpan_of_outline h
  obtain ⟨tree, htree⟩ := exists_foldTokens_of_itemsSpan hspan
  exact ⟨hspan, tree, htree, agrees_foldTokens hspan htree⟩

section Tokenize

variable {names : CharacterNames} {source : List Char} {items : List Item} {tree : List Node}

theorem tokenize_of_outline (h : outline (cut names source) = .ok items)
    (htree : foldTokens (Token.ofPieces (cut names source).pieces) = some tree) (name : String) :
    tokenize names name source = .ok tree := by
  simp [tokenize, ofSource, h, htree, mapError_mk_ok]

theorem outline_of_tokenize {name : String} (h : tokenize names name source = .ok tree) :
    ∃ items, outline (cut names source) = .ok items ∧
      foldTokens (Token.ofPieces (cut names source).pieces) = some tree := by
  rw [tokenize, ofSource] at h
  cases ho : outline (cut names source) with
  | error e => simp [ho, mapError_mk_error] at h
  | ok items =>
    obtain ⟨-, tree', htree, -⟩ := agrees_of_outline ho
    simp only [ho, htree, mapError_mk_ok, Except.ok.injEq] at h
    exact ⟨items, rfl, h ▸ htree⟩

end Tokenize

/-- The parts that the grammar finds in a template stand for all its pieces, and the tree of the
template agrees with them exactly if no assignment with a body has a sign of assignment in its
tag. -/
theorem agrees_iff_bare (names : CharacterNames) (name : String) (source : List Char)
    (tree : List Node) (h : tokenize names name source = .ok tree) :
    ∃ items, outline (cut names source) = .ok items ∧
      ItemsSpan items (cut names source).pieces ∧
      (Agrees items (Token.ofPieces (cut names source).pieces) tree ↔ ItemsBare items) := by
  obtain ⟨items, ho, htree⟩ := outline_of_tokenize h
  obtain ⟨hspan, tree', htree', hagrees⟩ := agrees_of_outline ho
  rw [htree] at htree'
  cases htree'
  exact ⟨items, ho, hspan, hagrees⟩

/-- A condition with an assignment in its second branch, and a character by its name. -/
theorem agrees_iff_bare_condition :
    let names : CharacterNames := fun name => if name = "BULLET".toList then some '•' else none
    let source := ("\x7b% if \"\\N\x7bBULLET\x7d\" %\x7db\x7b% else %\x7d" ++
      "\x7b% set x %\x7dc\x7b% endset %\x7d\x7b% endif %\x7d").toList
    let items : List Item :=
      [.block 1 "if" [⟨1, .string (units "•")⟩] [.text 1 "b"]
        [.mk 1 "else" [] [.block 1 "set" [⟨1, .name "x"⟩] [.text 1 "c"] []]]]
    tokenize names "t" source = .ok (itemNodes items) ∧
      ItemsSpan items (cut names source).pieces ∧
      Agrees items (Token.ofPieces (cut names source).pieces) (itemNodes items) := by
  intro names source items
  have hcut : cut names source =
      ⟨[.group .tag 1 [⟨1, .name "if"⟩, ⟨1, .string (units "•")⟩] (some 1),
        .text 1 "b", .group .tag 1 [⟨1, .name "else"⟩] (some 1),
        .group .tag 1 [⟨1, .name "set"⟩, ⟨1, .name "x"⟩] (some 1), .text 1 "c",
        .group .tag 1 [⟨1, .name "endset"⟩] (some 1),
        .group .tag 1 [⟨1, .name "endif"⟩] (some 1)], none⟩ := by decide +kernel
  have houtline : outline (cut names source) = .ok items := by
    rw [hcut]
    cbv
  obtain ⟨-, tree, hfold, -⟩ := agrees_of_outline houtline
  have htree := tokenize_of_outline houtline hfold "t"
  obtain ⟨items', ho, hspan, hagrees⟩ := agrees_iff_bare names "t" source tree htree
  rw [houtline] at ho
  cases ho
  have ha := hagrees.mpr (by simp [items, ItemsBare, ItemBare, SectionsBare, Assigns])
  rw [ha.nodes] at htree ha
  exact ⟨htree, hspan, ha⟩

set_option maxRecDepth 2000 in
/-- A filter with a named argument makes an assignment with a body a leaf, and its end too. -/
theorem not_agrees_filtered :
    let names : CharacterNames := fun _ => none
    let source := "\x7b% set x|indent(width=2) %\x7db\x7b% endset %\x7d".toList
    let rest : List Symbol := [.name "x", .operator .pipe, .name "indent", .operator .lparen,
      .name "width", .operator .assign, .integer 2, .operator .rparen].map (Symbol.mk 1)
    let items : List Item := [.block 1 "set" rest [.text 1 "b"] []]
    let tree : List Node :=
      [.leaf (headOf 1 "set" rest), .raw (units "b"), .leaf (headOf 1 "endset" [])]
    tokenize names "t" source = .ok tree ∧ outline (cut names source) = .ok items ∧
      ¬Agrees items (Token.ofPieces (cut names source).pieces) tree := by
  intro names source rest items tree
  have hcut : cut names source = ⟨[.group .tag 1 (⟨1, .name "set"⟩ :: rest) (some 1), .text 1 "b",
      .group .tag 1 [⟨1, .name "endset"⟩] (some 1)], none⟩ := by decide +kernel
  have houtline : outline (cut names source) = .ok items := by
    rw [hcut]
    cbv
  have htree : tokenize names "t" source = .ok tree := by
    apply tokenize_of_outline houtline
    rw [hcut]
    rfl
  refine ⟨htree, houtline, ?_⟩
  intro ha
  apply ha.noEnds (headOf 1 "endset" [])
  · simp [tree, nodesPreorder, Node.preorder]
  · exact ⟨units "set", rfl⟩

end Stencil.Tree
