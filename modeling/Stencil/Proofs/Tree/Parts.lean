import Stencil.Proofs.Template.Outline
import Stencil.Proofs.Tree.Printing

/-!
The tree of the parts that the grammar finds in a template. The tokens of a template show that
tree, and it is one that a stream can show, provided that no assignment with a body has a sign of
assignment in its tag.
-/
namespace Stencil.Tree

open Text Template

/-- A node in front of others; text in front of text is one node. -/
def consNode : Node → List Node → List Node
  | .raw s, .raw t :: rest => .raw (s ++ t) :: rest
  | n, rest => n :: rest

def headOf (line : Nat) (name : String) (rest : List Symbol) : Head :=
  ⟨units name, line, rest.map .ofSymbol⟩

mutual

def itemNode : Item → Node
  | .text _ s => .raw (units s)
  | .output _ symbols => .output (symbols.map .ofSymbol)
  | .tag line name rest => .leaf (headOf line name rest)
  | .block line name rest body sections =>
    .block (headOf line name rest) (itemNodes body) (sectionBranches sections)

def itemNodes : List Item → List Node
  | [] => []
  | item :: rest => consNode (itemNode item) (itemNodes rest)

def sectionBranches : List Section → List Branch
  | [] => []
  | .mk line name rest body :: more =>
    .mk (headOf line name rest) (itemNodes body) :: sectionBranches more

end

mutual

/-- No assignment with a body has a sign of assignment in its tag. -/
def ItemBare : Item → Prop
  | .block _ name rest body sections =>
    (name = "set" → ¬Assigns rest) ∧ ItemsBare body ∧ SectionsBare sections
  | _ => True

/-- No assignment with a body, at any depth, has a sign of assignment in its tag. -/
def ItemsBare : List Item → Prop
  | [] => True
  | item :: rest => ItemBare item ∧ ItemsBare rest

/-- No assignment with a body, at any depth, has a sign of assignment in its tag. -/
def SectionsBare : List Section → Prop
  | [] => True
  | .mk _ _ _ body :: more => ItemsBare body ∧ SectionsBare more

end

section Symbols

theorem kind_ofSymbol (s : Symbol) : (Token.ofSymbol s).kind = s.word.label := rfl

/-- No symbol looks like the end of a group. -/
theorem lacks_endKind (kind : Delimiter) (symbols : List Symbol) :
    Lacks (endKind kind) (symbols.map .ofSymbol) := by
  intro t ht
  obtain ⟨s, -, rfl⟩ := List.mem_map.mp ht
  rw [kind_ofSymbol]
  cases s.word with
  | operator op => cases op <;> cases kind <;> decide
  | _ => cases kind <;> simp [Word.label, endKind]

theorem label_eq_assign (w : Word) : w.label = "assign" ↔ w = .operator .assign := by
  cases w with
  | operator op => cases op <;> decide
  | _ => simp [Word.label]

theorem lacks_assign_iff (symbols : List Symbol) :
    Lacks "assign" (symbols.map .ofSymbol) ↔ ¬Assigns symbols := by
  simp [Lacks, Assigns, kind_ofSymbol, label_eq_assign]

end Symbols

section Names

theorem units_end (block : String) : units ("end" ++ block) = endMark ++ units block := by
  simp only [units, String.toList_append, unitsOfChars_append, endMark]

theorem leafNames_spec : ∀ name ∈ leafNames, units name ∉ blockTags ∧ units name ∉ branchTags ∧
    (units name).take 3 ≠ endMark ∧ (units name = units "set" → name = "set") := by decide

theorem openingNames_spec : ∀ name ∈ openingNames,
    (units name = units "set" ↔ name = "set") ∧ (units name ∈ blockTags ↔ name ≠ "set") ∧
      (units name).take 3 ≠ endMark := by decide

theorem branchTags_of_continues {block name : String} (h : Continues block name) :
    units name ∈ branchTags := by
  obtain ⟨rfl, -⟩ | ⟨rfl, -⟩ := h <;> decide

/-- A statement that opens a block for the grammar opens one in the tree, if it is bare. -/
theorem opens_headOf {line : Nat} {name : String} {rest : List Symbol} (hn : name ∈ openingNames) :
    (headOf line name rest).Opens ↔ (name = "set" → ¬Assigns rest) := by
  obtain ⟨hset, hblock, -⟩ := openingNames_spec name hn
  change units name ∈ blockTags ∨ units name = units "set" ∧ Lacks "assign" (rest.map .ofSymbol) ↔ _
  rw [hset, hblock, lacks_assign_iff]
  by_cases hs : name = "set" <;> simp [hs]

/-- A statement that is complete for the grammar is a leaf in the tree. -/
theorem isLeaf_headOf {line : Nat} {name : String} {rest : List Symbol} (around : Option Units)
    (hn : name ∈ leafNames) (ha : name = "set" → Assigns rest) :
    (headOf line name rest).IsLeaf around := by
  obtain ⟨hblock, hbranch, hend, hset⟩ := leafNames_spec name hn
  refine ⟨?_, ?_, fun hb => absurd hb hbranch, lacks_endKind .tag rest⟩
  · rintro (ho | ⟨hs, hl⟩)
    · exact hblock ho
    · exact (lacks_assign_iff rest).mp hl (ha (hset hs))
  · intro tag _ he
    apply hend
    change (headOf line name rest).tag.take 3 = endMark
    rw [he]
    rfl

end Names

section Printing

theorem print_statement {s : Statement} {piece : Piece} (h : s.Shows piece) :
    (headOf s.line s.name s.rest).Print (Token.ofPiece piece) := by
  obtain ⟨nameLine, closing, rfl⟩ := h
  exact ⟨.ofString s.line (beginKind .tag) (delimiterTexts .tag).1,
    .ofSymbol ⟨nameLine, .name s.name⟩, .ofString closing (endKind .tag) (delimiterTexts .tag).2,
    rfl, rfl, by simp [kind_ofSymbol, Word.label], rfl, rfl, by simp [Token.ofPiece, headOf]⟩

theorem print_end {block : String} {piece : Piece} (h : EndShows block piece) :
    EndPrint (units block) (Token.ofPiece piece) := by
  obtain ⟨s, hname, hs⟩ := h
  have hp := print_statement hs
  rw [hname] at hp
  exact ⟨s.line, s.rest.map .ofSymbol, lacks_endKind .tag s.rest, by rw [← units_end]; exact hp⟩

theorem textPrint_append {s t : Units} {ps qs : List Token} (hs : TextPrint s ps)
    (ht : TextPrint t qs) : TextPrint (s ++ t) (ps ++ qs) := by
  obtain ⟨xs, hx, rfl, rfl⟩ := hs
  obtain ⟨ys, -, rfl, rfl⟩ := ht
  exact ⟨xs ++ ys, by simp [hx], by simp, by simp⟩

theorem nodesPrint_cons {n : Node} {nodes : List Node} {ps qs : List Token} (hn : n.Print ps)
    (hr : NodesPrint nodes qs) : NodesPrint (consNode n nodes) (ps ++ qs) := by
  cases n with
  | raw s =>
    cases nodes with
    | nil => exact ⟨ps, qs, rfl, hn, hr⟩
    | cons m rest =>
      cases m with
      | raw t =>
        obtain ⟨here, after, rfl, hh, ha⟩ := hr
        exact ⟨ps ++ here, after, by simp, textPrint_append hn hh, ha⟩
      | _ => exact ⟨ps, qs, rfl, hn, hr⟩
  | _ => exact ⟨ps, qs, rfl, hn, hr⟩

theorem nodesNormal_cons {around : Option Units} {n : Node} {nodes : List Node}
    (hn : n.Normal around) (hr : NodesNormal around nodes) :
    NodesNormal around (consNode n nodes) := by
  cases n with
  | raw s =>
    cases nodes with
    | nil => exact ⟨hn, fun _ => rfl, hr⟩
    | cons m rest =>
      cases m with
      | raw t => exact ⟨trivial, fun _ => hr.2.1 rfl, hr.2.2⟩
      | _ => exact ⟨hn, fun _ => rfl, hr⟩
  | _ => exact ⟨hn, fun h => by simp [startsRaw] at h, hr⟩

/-- The text of a list of pieces, cut in two. -/
theorem ofPieces_append (ps qs : List Piece) :
    Token.ofPieces (ps ++ qs) = Token.ofPieces ps ++ Token.ofPieces qs := by
  simp [Token.ofPieces]

mutual

/-- The pieces of a part show its node. -/
theorem print_item (item : Item) (ps : List Piece) (h : item.Spans ps) :
    (itemNode item).Print (Token.ofPieces ps) := by
  match item with
  | .text line s =>
    have hps : ps = [.text line s] := h
    subst hps
    exact ⟨[((line : Int), units s)], by simp, by simp, rfl⟩
  | .output line symbols =>
    obtain ⟨closing, rfl⟩ := h
    exact ⟨.ofString line (beginKind .output) (delimiterTexts .output).1,
      .ofString closing (endKind .output) (delimiterTexts .output).2, rfl, rfl,
      by simp [Token.ofPieces, Token.ofPiece]⟩
  | .tag line name rest =>
    obtain ⟨piece, rfl, hs, -, -⟩ := h
    have hp := print_statement hs
    rw [show Token.ofPieces [piece] = Token.ofPiece piece by simp [Token.ofPieces]]
    exact hp
  | .block line name rest body sections =>
    obtain ⟨opening, inner, others, closing, rfl, hs, -, hb, ho, he⟩ := h
    have hopening := print_statement hs
    refine ⟨Token.ofPiece opening, Token.ofPieces inner, Token.ofPieces others,
      Token.ofPiece closing, ?_, hopening, print_items body inner hb,
      print_sections name sections others ho, print_end he⟩
    simp [Token.ofPieces]

/-- The pieces of parts show their nodes. -/
theorem print_items (items : List Item) (ps : List Piece) (h : ItemsSpan items ps) :
    NodesPrint (itemNodes items) (Token.ofPieces ps) := by
  match items with
  | [] =>
    have hps : ps = [] := h
    subst hps
    rfl
  | item :: rest =>
    obtain ⟨here, after, rfl, hh, ha⟩ := h
    rw [ofPieces_append]
    exact nodesPrint_cons (print_item item here hh) (print_items rest after ha)

/-- The pieces of further sections show their branches. -/
theorem print_sections (block : String) (sections : List Section) (ps : List Piece)
    (h : SectionsSpan block sections ps) :
    BranchesPrint (sectionBranches sections) (Token.ofPieces ps) := by
  match sections with
  | [] =>
    have hps : ps = [] := h
    subst hps
    rfl
  | .mk line name rest body :: more =>
    obtain ⟨opening, inner, others, rfl, hs, -, hb, hm⟩ := h
    have hopening := print_statement hs
    refine ⟨Token.ofPiece opening, Token.ofPieces inner, Token.ofPieces others, ?_,
      hopening, print_items body inner hb, print_sections block more others hm⟩
    simp [Token.ofPieces]

end

/-- A piece that is one group of its stream: text, or what is closed; the tokens of a tag begin with
its name. -/
inductive Whole : Piece → Prop
  | text {line s} : Whole (.text line s)
  | output {line symbols closing} : Whole (.group .output line symbols (some closing))
  | statement {s : Statement} {piece} (h : s.Shows piece) : Whole piece

theorem groups_whole {piece : Piece} (h : Whole piece) (rest : List Token) :
    ∃ group e, group.event = some e ∧
      groups (Token.ofPiece piece ++ rest) = group :: groups rest := by
  cases h with
  | text => exact ⟨_, _, rfl, groups_data _ _ rfl⟩
  | @output line symbols closing =>
    have hp : OutputPrint (symbols.map .ofSymbol)
        (Token.ofPiece (.group .output line symbols (some closing))) :=
      ⟨_, _, rfl, rfl, rfl⟩
    exact ⟨_, _, rfl, groups_outputPrint rest (lacks_endKind .output symbols) hp⟩
  | @statement s _ h =>
    have hclosed : Lacks "block_end" (headOf s.line s.name s.rest).stack :=
      lacks_endKind .tag s.rest
    obtain ⟨group, hevent, hgroups⟩ := groups_headPrint rest hclosed (print_statement h)
    exact ⟨group, _, hevent, hgroups⟩

mutual

theorem whole_item (item : Item) (ps : List Piece) (h : item.Spans ps) :
    ∀ piece ∈ ps, Whole piece := by
  match item with
  | .text line s =>
    have hps : ps = [.text line s] := h
    subst hps
    exact List.forall_mem_singleton.mpr .text
  | .output line symbols =>
    obtain ⟨closing, rfl⟩ := h
    exact List.forall_mem_singleton.mpr .output
  | .tag line name rest =>
    obtain ⟨piece, rfl, hs, -, -⟩ := h
    exact List.forall_mem_singleton.mpr (.statement hs)
  | .block line name rest body sections =>
    obtain ⟨opening, inner, others, closing, rfl, hs, -, hb, ho, s, -, he⟩ := h
    refine List.forall_mem_cons.mpr ⟨.statement hs, List.forall_mem_append.mpr ⟨?_, ?_⟩⟩
    · exact whole_items body inner hb
    · exact List.forall_mem_append.mpr
        ⟨whole_sections name sections others ho, List.forall_mem_singleton.mpr (.statement he)⟩

theorem whole_items (items : List Item) (ps : List Piece) (h : ItemsSpan items ps) :
    ∀ piece ∈ ps, Whole piece := by
  match items with
  | [] =>
    have hps : ps = [] := h
    subst hps
    exact nofun
  | item :: rest =>
    obtain ⟨here, after, rfl, hh, ha⟩ := h
    exact List.forall_mem_append.mpr ⟨whole_item item here hh, whole_items rest after ha⟩

theorem whole_sections (block : String) (sections : List Section) (ps : List Piece)
    (h : SectionsSpan block sections ps) : ∀ piece ∈ ps, Whole piece := by
  match sections with
  | [] =>
    have hps : ps = [] := h
    subst hps
    exact nofun
  | .mk line name rest body :: more =>
    obtain ⟨opening, inner, others, rfl, hs, -, hb, hm⟩ := h
    refine List.forall_mem_cons.mpr ⟨.statement hs, List.forall_mem_append.mpr ⟨?_, ?_⟩⟩
    · exact whole_items body inner hb
    · exact whole_sections block more others hm

end

/-- The names of an accepted template are texts, so it has a tree. -/
theorem exists_foldTokens_of_itemsSpan {items : List Item} {ps : List Piece}
    (h : ItemsSpan items ps) : ∃ tree, foldTokens (Token.ofPieces ps) = some tree := by
  have hevents : ∃ es, events (Token.ofPieces ps) = some es := by
    have hall := whole_items items ps h
    clear h
    induction ps with
    | nil => exact ⟨[], rfl⟩
    | cons piece rest ih =>
      obtain ⟨hpiece, hrest⟩ := List.forall_mem_cons.mp hall
      obtain ⟨es, hes⟩ := ih hrest
      obtain ⟨group, e, hevent, hgroups⟩ := groups_whole hpiece (Token.ofPieces rest)
      refine ⟨e :: es, ?_⟩
      rw [Token.ofPieces, List.flatMap_cons]
      rw [Token.ofPieces] at hes hgroups
      rw [events_of_groups hgroups hevent, hes]
      rfl
  obtain ⟨es, hes⟩ := hevents
  exact ⟨foldEvents es, by rw [foldTokens, hes]; rfl⟩

end Printing

mutual

/-- The node of a part is one that a stream can show, if its assignments are bare. -/
theorem normal_item (around : Option Units) (item : Item) (ps : List Piece) (h : item.Spans ps)
    (hb : ItemBare item) : (itemNode item).Normal around := by
  match item with
  | .text _ _ => exact trivial
  | .output _ symbols => exact lacks_endKind .output symbols
  | .tag line name rest =>
    obtain ⟨piece, -, -, hn, ha⟩ := h
    exact isLeaf_headOf around hn ha
  | .block line name rest body sections =>
    obtain ⟨opening, inner, others, closing, -, -, hn, hbody, hmore, -⟩ := h
    obtain ⟨hset, hbareBody, hbareMore⟩ := hb
    exact ⟨(opens_headOf hn).mpr hset, lacks_endKind .tag rest,
      normal_items _ body inner hbody hbareBody,
      normal_sections _ name sections others hmore hbareMore⟩

theorem normal_items (around : Option Units) (items : List Item) (ps : List Piece)
    (h : ItemsSpan items ps) (hb : ItemsBare items) : NodesNormal around (itemNodes items) := by
  match items with
  | [] => exact trivial
  | item :: rest =>
    obtain ⟨here, after, -, hh, ha⟩ := h
    exact nodesNormal_cons (normal_item around item here hh hb.1)
      (normal_items around rest after ha hb.2)

theorem normal_sections (around : Option Units) (block : String) (sections : List Section)
    (ps : List Piece) (h : SectionsSpan block sections ps) (hb : SectionsBare sections) :
    BranchesNormal around (sectionBranches sections) := by
  match sections with
  | [] => exact trivial
  | .mk line name rest body :: more =>
    obtain ⟨opening, inner, others, -, -, hc, hbody, hmore⟩ := h
    exact ⟨branchTags_of_continues hc, lacks_endKind .tag rest,
      normal_items around body inner hbody hb.1,
      normal_sections around block more others hmore hb.2⟩

end

end Stencil.Tree
