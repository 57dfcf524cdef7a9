import Stencil.Proofs.Tree.Events

/-!
Trees printed as streams of tokens, and folded back. A printed text may be cut anywhere, and the tag
that ends a block may carry any line and further tokens. Folding gives back the tree that was
printed, provided that the tree is one that a stream can show: no text beside another text, and
every statement where its name and its tokens put it.
-/
namespace Stencil.Tree

open Text

/-- A text node, at the side where a list is extended or read. -/
def startsRaw : List Node → Bool
  | .raw _ :: _ => true
  | _ => false

/-- A statement that opens a block: by its name, or an assignment whose value is the body. -/
def Head.Opens (h : Head) : Prop :=
  h.tag ∈ blockTags ∨ h.tag = units "set" ∧ Lacks "assign" h.stack

theorem Head.opensBlock_iff (h : Head) : h.opensBlock = true ↔ h.Opens := by
  have hset : units "set" ∉ blockTags := by decide
  by_cases hs : h.tag = units "set"
  · simp [Head.opensBlock, Head.Opens, Lacks, hs, hset]
  · simp [Head.opensBlock, Head.Opens, hs]

/-- No statement both opens a block and begins a branch. -/
theorem Head.not_opens_of_branch (h : Head) (hb : h.tag ∈ branchTags) : ¬h.Opens := by
  have hall : ∀ tag ∈ branchTags, tag ∉ blockTags ∧ tag ≠ units "set" := by decide
  rintro (ho | ⟨ho, -⟩)
  · exact (hall h.tag hb).1 ho
  · exact (hall h.tag hb).2 ho

structure Head.IsLeaf (around : Option Units) (h : Head) : Prop where
  notOpens : ¬h.Opens
  notEnd : ∀ tag, around = some tag → h.tag ≠ endMark ++ tag
  notBranch : h.tag ∈ branchTags → around = none
  closed : Lacks "block_end" h.stack

mutual

/-- A node that a stream can show inside a block called `around`. -/
def Node.Normal (around : Option Units) : Node → Prop
  | .raw _ => True
  | .output stack => Lacks "variable_end" stack
  | .leaf head => head.IsLeaf around
  | .block head output branches =>
    head.Opens ∧ Lacks "block_end" head.stack ∧ NodesNormal (some head.tag) output ∧
      BranchesNormal (some head.tag) branches

/-- Nodes that a stream can show side by side. -/
def NodesNormal (around : Option Units) : List Node → Prop
  | [] => True
  | n :: rest =>
    n.Normal around ∧ (startsRaw [n] = true → startsRaw rest = false) ∧ NodesNormal around rest

/-- Branches that a stream can show in a block called `around`. -/
def BranchesNormal (around : Option Units) : List Branch → Prop
  | [] => True
  | .mk head output :: rest =>
    head.tag ∈ branchTags ∧ Lacks "block_end" head.stack ∧ NodesNormal around output ∧
      BranchesNormal around rest

end

/-- Tokens that hold a text, in one piece or more. -/
def TextPrint (value : Units) (ts : List Token) : Prop :=
  ∃ pieces : List (Int × Units), pieces ≠ [] ∧ pieces.flatMap Prod.snd = value ∧
    ts = pieces.map fun p => ⟨p.1, "data", .text p.2⟩

def OutputPrint (stack ts : List Token) : Prop :=
  ∃ first last : Token, first.kind = "variable_begin" ∧ last.kind = "variable_end" ∧
    ts = first :: stack ++ [last]

/-- Tokens of a statement: its name is the text of the first token of the group. -/
def Head.Print (h : Head) (ts : List Token) : Prop :=
  ∃ first name last : Token, first.kind = "block_begin" ∧ first.line = h.line ∧
    name.kind ≠ "block_end" ∧ name.value.asText = some h.tag ∧ last.kind = "block_end" ∧
    ts = first :: name :: h.stack ++ [last]

/-- Tokens of the statement that ends a block, on any line and with any more tokens. -/
def EndPrint (tag : Units) (ts : List Token) : Prop :=
  ∃ (line : Int) (stack : List Token), Lacks "block_end" stack ∧
    (Head.mk (endMark ++ tag) line stack).Print ts

mutual

def Node.Print : Node → List Token → Prop
  | .raw value, ts => TextPrint value ts
  | .output stack, ts => OutputPrint stack ts
  | .leaf head, ts => head.Print ts
  | .block head output branches, ts =>
    ∃ opening body others closing, ts = opening ++ (body ++ (others ++ closing)) ∧
      head.Print opening ∧ NodesPrint output body ∧ BranchesPrint branches others ∧
      EndPrint head.tag closing

/-- Tokens that show nodes side by side. -/
def NodesPrint : List Node → List Token → Prop
  | [], ts => ts = []
  | n :: rest, ts => ∃ here after, ts = here ++ after ∧ n.Print here ∧ NodesPrint rest after

def BranchesPrint : List Branch → List Token → Prop
  | [], ts => ts = []
  | .mk head output :: rest, ts =>
    ∃ opening body others, ts = opening ++ (body ++ others) ∧ head.Print opening ∧
      NodesPrint output body ∧ BranchesPrint rest others

end

def Head.tokens (h : Head) : List Token :=
  .ofString h.line (beginKind .tag) (delimiterTexts .tag).1 :: ⟨h.line, "name", .text h.tag⟩ ::
    h.stack ++ [.ofString h.line (endKind .tag) (delimiterTexts .tag).2]

mutual

/-- One way to show a node, with every text in one piece and all delimiters on line 1. -/
def Node.tokens : Node → List Token
  | .raw value => [⟨1, "data", .text value⟩]
  | .output stack =>
    .ofString 1 (beginKind .output) (delimiterTexts .output).1 :: stack ++
      [.ofString 1 (endKind .output) (delimiterTexts .output).2]
  | .leaf head => head.tokens
  | .block head output branches =>
    head.tokens ++ (nodesTokens output ++ (branchesTokens branches ++
      (Head.mk (endMark ++ head.tag) 1 []).tokens))

/-- One way to show nodes side by side. -/
def nodesTokens : List Node → List Token
  | [] => []
  | n :: rest => n.tokens ++ nodesTokens rest

def branchesTokens : List Branch → List Token
  | [] => []
  | .mk head output :: rest => head.tokens ++ (nodesTokens output ++ branchesTokens rest)

end

theorem Head.print_tokens (h : Head) : h.Print h.tokens :=
  ⟨_, _, _, rfl, rfl, by simp, rfl, rfl, rfl⟩

mutual

theorem Node.print_tokens (n : Node) : n.Print n.tokens := by
  match n with
  | .raw value => exact ⟨[(1, value)], by simp, by simp, rfl⟩
  | .output stack => exact ⟨_, _, rfl, rfl, rfl⟩
  | .leaf head => exact head.print_tokens
  | .block head output branches =>
    exact ⟨_, _, _, _, rfl, head.print_tokens, nodesPrint_tokens output,
      branchesPrint_tokens branches, 1, [], by simp [Lacks], Head.print_tokens _⟩

theorem nodesPrint_tokens (nodes : List Node) : NodesPrint nodes (nodesTokens nodes) := by
  match nodes with
  | [] => rfl
  | n :: rest => exact ⟨_, _, rfl, n.print_tokens, nodesPrint_tokens rest⟩

theorem branchesPrint_tokens (bs : List Branch) : BranchesPrint bs (branchesTokens bs) := by
  match bs with
  | [] => rfl
  | .mk head output :: rest =>
    exact ⟨_, _, _, rfl, head.print_tokens, nodesPrint_tokens output, branchesPrint_tokens rest⟩

end

def Growth.read (g : Growth) (ts : List Token) : Option Growth :=
  (events ts).map fun es => es.foldl Growth.add g

/-- A construction goes on with the event of a whole group. -/
theorem Growth.read_group {g : Growth} {ts rest : List Token} {group : Group} {e : Event}
    (h : groups ts = group :: groups rest) (he : group.event = some e) :
    g.read ts = (g.add e).read rest := by
  rw [Growth.read, events_of_groups h he, Option.map_map]
  rfl

def Growth.around (g : Growth) : Option Units := g.frames.head?.map fun f => f.head.tag

theorem addText_fresh (value : Units) (level : List Node) (h : startsRaw level = false) :
    addText value level = .raw value :: level := by
  cases level with
  | nil => rfl
  | cons n rest => cases n <;> first | rfl | simp [startsRaw] at h

/-- Further pieces go on with the text that has begun. -/
theorem read_pieces (pieces : List (Int × Units)) (before : Units) (level : List Node)
    (frames : List Frame) (rest : List Token) :
    Growth.read ⟨.raw before :: level, frames⟩
        ((pieces.map fun p => ⟨p.1, "data", .text p.2⟩) ++ rest) =
      Growth.read ⟨.raw (before ++ pieces.flatMap Prod.snd) :: level, frames⟩ rest := by
  induction pieces generalizing before with
  | nil => simp
  | cons p pieces ih =>
    have h := ih (before ++ p.2)
    rw [List.append_assoc, ← List.flatMap_cons] at h
    rw [List.map_cons, List.cons_append, Growth.read_group (groups_data _ _ rfl) rfl]
    exact h

theorem read_text (value : Units) (ts rest : List Token) (g : Growth) (hp : TextPrint value ts)
    (hr : startsRaw g.level = false) :
    g.read (ts ++ rest) = Growth.read ⟨.raw value :: g.level, g.frames⟩ rest := by
  obtain ⟨pieces, hne, rfl, rfl⟩ := hp
  cases pieces with
  | nil => exact absurd rfl hne
  | cons p pieces =>
    have h : g.add (.text p.2) = ⟨.raw p.2 :: g.level, g.frames⟩ := by
      simp only [Growth.add, addText_fresh _ _ hr]
    rw [List.map_cons, List.cons_append, Growth.read_group (groups_data _ _ rfl) rfl, h]
    exact read_pieces pieces p.2 g.level g.frames rest

theorem groups_outputPrint {stack ts : List Token} (rest : List Token)
    (hs : Lacks "variable_end" stack) (hp : OutputPrint stack ts) :
    groups (ts ++ rest) = .output stack :: groups rest := by
  obtain ⟨first, last, hf, hl, rfl⟩ := hp
  have hgroups := groups_output first (stack ++ last :: rest) hf
  rw [collect_append "variable_end" stack last rest hs hl] at hgroups
  rw [List.append_assoc, List.cons_append, List.singleton_append, hgroups]

theorem read_output (stack ts rest : List Token) (g : Growth) (hs : Lacks "variable_end" stack)
    (hp : OutputPrint stack ts) :
    g.read (ts ++ rest) = Growth.read ⟨.output stack :: g.level, g.frames⟩ rest :=
  Growth.read_group (groups_outputPrint rest hs hp) rfl

/-- A printed statement is one group of its stream. -/
theorem groups_headPrint {h : Head} {ts : List Token} (rest : List Token)
    (hs : Lacks "block_end" h.stack) (hp : h.Print ts) :
    ∃ group : Group, group.event = some (.statement h) ∧
      groups (ts ++ rest) = group :: groups rest := by
  obtain ⟨first, name, last, hf, hline, hk, htag, hl, rfl⟩ := hp
  have hc : collect "block_end" (name :: h.stack ++ last :: rest) = (name :: h.stack, rest) := by
    apply collect_append _ _ _ _ _ hl
    intro t ht
    rcases List.mem_cons.mp ht with rfl | ht
    · exact hk
    · exact hs t ht
  have hgroups := groups_statement first (name :: h.stack ++ last :: rest) hf
  rw [hc] at hgroups
  refine ⟨.statement first.line (name :: h.stack), ?_, ?_⟩
  · simp [Group.event, Head.ofGroup, hline, htag]
  · rw [List.append_assoc, List.cons_append, List.singleton_append]
    exact hgroups

/-- A printed statement is read as that statement. -/
theorem read_head (h : Head) (ts rest : List Token) (g : Growth) (hs : Lacks "block_end" h.stack)
    (hp : h.Print ts) : g.read (ts ++ rest) = (g.add (.statement h)).read rest := by
  obtain ⟨group, hevent, hgroups⟩ := groups_headPrint rest hs hp
  exact Growth.read_group hgroups hevent

theorem Head.ends_eq_false {h : Head} {tag : Units} :
    h.ends tag = false ↔ h.tag ≠ endMark ++ tag := by
  simp [Head.ends]

theorem add_leaf (h : Head) (g : Growth) (hl : h.IsLeaf g.around) :
    g.add (.statement h) = ⟨.leaf h :: g.level, g.frames⟩ := by
  have ho : h.opensBlock = false := by
    rw [← Bool.not_eq_true, Head.opensBlock_iff]
    exact hl.notOpens
  obtain ⟨level, frames⟩ := g
  cases frames with
  | nil => simp [Growth.add, ho]
  | cons f outer =>
    have he : h.ends f.head.tag = false := Head.ends_eq_false.mpr (hl.notEnd f.head.tag rfl)
    have hb : h.tag ∉ branchTags := by
      intro hb
      simpa [Growth.around] using hl.notBranch hb
    simp [Growth.add, ho, he, hb]

/-- The name of a block does not begin like that of an end. -/
theorem Head.Opens.not_end {h : Head} (ho : h.Opens) (tag : Units) : h.tag ≠ endMark ++ tag := by
  have hall : ∀ tag ∈ units "set" :: blockTags, tag.take 3 ≠ endMark := by decide
  intro he
  have hm : h.tag ∈ units "set" :: blockTags := by
    rcases ho with ho | ⟨ho, -⟩
    · exact List.mem_cons_of_mem _ ho
    · exact ho ▸ List.mem_cons_self
  apply hall h.tag hm
  rw [he]
  rfl

theorem add_opening (h : Head) (g : Growth) (ho : h.Opens) :
    g.add (.statement h) = ⟨[], .opened h g.level :: g.frames⟩ := by
  have hb : h.tag ∉ branchTags := fun hb => h.not_opens_of_branch hb ho
  have hob : h.opensBlock = true := h.opensBlock_iff.mpr ho
  obtain ⟨level, frames⟩ := g
  cases frames with
  | nil => simp [Growth.add, hob]
  | cons f outer =>
    have he : h.ends f.head.tag = false := Head.ends_eq_false.mpr (ho.not_end f.head.tag)
    simp [Growth.add, hob, hb, he]

theorem add_branch (h : Head) (level : List Node) (f : Frame) (outer : List Frame)
    (hb : h.tag ∈ branchTags) :
    Growth.add ⟨level, f :: outer⟩ (.statement h) = ⟨[], f.nextBranch level h :: outer⟩ := by
  have hall : ∀ tag ∈ branchTags, tag.take 3 ≠ endMark := by decide
  have he : h.ends f.head.tag = false := by
    rw [Head.ends_eq_false]
    intro he
    apply hall h.tag hb
    rw [he]
    rfl
  simp [Growth.add, he, hb]

theorem add_end (line : Int) (stack : List Token) (level : List Node) (f : Frame)
    (outer : List Frame) :
    Growth.add ⟨level, f :: outer⟩ (.statement ⟨endMark ++ f.head.tag, line, stack⟩) =
      ⟨f.close level, outer⟩ := by
  simp [Growth.add, Head.ends]

/-- An open block after whole branches: the block, and the nodes of its last branch. -/
def Frame.fill (f : Frame) (level : List Node) : List Branch → Frame × List Node
  | [] => (f, level)
  | .mk head output :: rest => (f.nextBranch level head).fill output.reverse rest

@[simp] theorem Frame.nextBranch_head (f : Frame) (level : List Node) (h : Head) :
    (f.nextBranch level h).head = f.head := rfl

@[simp] theorem Frame.nextBranch_before (f : Frame) (level : List Node) (h : Head) :
    (f.nextBranch level h).before = f.before := rfl

theorem Frame.nextBranch_parts (f : Frame) (level : List Node) (h : Head) (inner : List Node) :
    (f.nextBranch level h).parts inner =
      ((f.parts level).1, (f.parts level).2 ++ [.mk h inner.reverse]) := by
  cases hb : f.branching <;> simp [Frame.nextBranch, Frame.parts, hb]

/-- Filling in branches adds them behind those that were there. -/
theorem Frame.close_fill (f : Frame) (level : List Node) (bs : List Branch) :
    (f.fill level bs).1.close (f.fill level bs).2 =
      .block f.head (f.parts level).1 ((f.parts level).2 ++ bs) :: f.before := by
  induction bs generalizing f level with
  | nil => simp [Frame.fill, Frame.close]
  | cons b bs ih =>
    obtain ⟨head, output⟩ := b
    simp only [Frame.fill]
    rw [ih, Frame.nextBranch_parts]
    simp

theorem Frame.fill_head (f : Frame) (level : List Node) (bs : List Branch) :
    (f.fill level bs).1.head = f.head := by
  induction bs generalizing f level with
  | nil => rfl
  | cons b bs ih =>
    obtain ⟨head, output⟩ := b
    simp only [Frame.fill]
    rw [ih, Frame.nextBranch_head]

mutual

/-- Reading a printed node adds that node to the innermost list, whatever blocks are open. -/
theorem read_node (n : Node) (ts rest : List Token) (g : Growth) (hn : n.Normal g.around)
    (hp : n.Print ts) (hr : startsRaw [n] = true → startsRaw g.level = false) :
    g.read (ts ++ rest) = Growth.read ⟨n :: g.level, g.frames⟩ rest := by
  match n with
  | .raw value => exact read_text value ts rest g hp (hr rfl)
  | .output stack => exact read_output stack ts rest g hn hp
  | .leaf head => rw [read_head head ts rest g hn.closed hp, add_leaf head g hn]
  | .block head output branches =>
    obtain ⟨ho, hs, hno, hnb⟩ := hn
    obtain ⟨opening, body, others, closing, rfl, hpo, hpb, hpbs, line, stack, hsc, hpc⟩ := hp
    rw [List.append_assoc, read_head head _ _ g hs hpo, add_opening head g ho,
      List.append_assoc, read_nodes output _ _ ⟨[], .opened head g.level :: g.frames⟩ hno hpb
        (fun _ => rfl), List.append_nil, List.append_assoc,
      read_branches branches _ _ _ _ _ hnb hpbs]
    have hend := add_end line stack ((Frame.opened head g.level).fill output.reverse branches).2
      ((Frame.opened head g.level).fill output.reverse branches).1 g.frames
    rw [Frame.fill_head, show (Frame.opened head g.level).head = head from rfl] at hend
    rw [read_head _ _ _ _ hsc hpc, hend, Frame.close_fill]
    simp [Frame.opened, Frame.parts]

/-- Reading printed nodes adds them to the innermost list. -/
theorem read_nodes (nodes : List Node) (ts rest : List Token) (g : Growth)
    (hn : NodesNormal g.around nodes) (hp : NodesPrint nodes ts)
    (hr : startsRaw nodes = true → startsRaw g.level = false) :
    g.read (ts ++ rest) = Growth.read ⟨nodes.reverse ++ g.level, g.frames⟩ rest := by
  match nodes with
  | [] =>
    have hts : ts = [] := hp
    subst hts
    rfl
  | n :: more =>
    obtain ⟨hn, hnext, hmore⟩ := hn
    obtain ⟨here, after, rfl, hph, hpa⟩ := hp
    have hstart : startsRaw [n] = startsRaw (n :: more) := by cases n <;> rfl
    rw [List.append_assoc, read_node n _ _ g hn hph (fun h => hr (hstart ▸ h)),
      read_nodes more _ _ ⟨n :: g.level, g.frames⟩ hmore hpa]
    · simp
    · intro hraw
      have hs : startsRaw [n] ≠ true := by
        intro hs
        rw [hnext hs] at hraw
        cases hraw
      cases n with
      | raw value => exact absurd rfl hs
      | _ => rfl

/-- Reading printed branches fills the innermost block. -/
theorem read_branches (bs : List Branch) (ts rest : List Token) (f : Frame) (level : List Node)
    (outer : List Frame) (hn : BranchesNormal (some f.head.tag) bs) (hp : BranchesPrint bs ts) :
    Growth.read ⟨level, f :: outer⟩ (ts ++ rest) =
      Growth.read ⟨(f.fill level bs).2, (f.fill level bs).1 :: outer⟩ rest := by
  match bs with
  | [] =>
    have hts : ts = [] := hp
    subst hts
    rfl
  | .mk head output :: more =>
    obtain ⟨hb, hs, hno, hmore⟩ := hn
    obtain ⟨opening, body, others, rfl, hpo, hpb, hpm⟩ := hp
    have hinner : NodesNormal (Growth.mk [] (f.nextBranch level head :: outer)).around output := by
      simpa [Growth.around] using hno
    rw [List.append_assoc, read_head head _ _ _ hs hpo, add_branch head level f outer hb,
      List.append_assoc, read_nodes output _ _ ⟨[], _⟩ hinner hpb (fun _ => rfl), List.append_nil]
    exact read_branches more _ _ _ _ _ (by simpa using hmore) hpm

end

/-- A printed tree is read back with no block left open. -/
theorem read_print (nodes : List Node) (ts : List Token) (hn : NodesNormal none nodes)
    (hp : NodesPrint nodes ts) : Growth.read ⟨[], []⟩ ts = some ⟨nodes.reverse, []⟩ := by
  have h := read_nodes nodes ts [] ⟨[], []⟩ hn hp (fun _ => rfl)
  rw [List.append_nil, List.append_nil] at h
  exact h

theorem foldTokens_eq (ts : List Token) :
    foldTokens ts = (Growth.read ⟨[], []⟩ ts).map Growth.tree := by
  rw [foldTokens, Growth.read, Option.map_map]
  rfl

/-- Every tree can be printed, and folding undoes printing, at any depth and however the texts are
cut. -/
theorem foldTokens_print (nodes : List Node) (hn : NodesNormal none nodes) :
    NodesPrint nodes (nodesTokens nodes) ∧
      ∀ ts, NodesPrint nodes ts → foldTokens ts = some nodes := by
  refine ⟨nodesPrint_tokens nodes, ?_⟩
  intro ts hp
  rw [foldTokens_eq, read_print nodes ts hn hp]
  simp [Growth.tree, closeAll]

/-- A text in two pieces, a block with a branch, and an end on another line with one token more. -/
theorem foldTokens_print_block :
    let x : Token := .ofString 1 "name" "x"
    let nodes : List Node :=
      [.raw (units "ab"),
        .block ⟨units "if", 1, [x]⟩ [.output [x]] [.mk ⟨units "else", 2, []⟩ [.raw (units "c")]]]
    let text : List Token := [.ofString 1 "data" "a", .ofString 1 "data" "b"]
    let opening : List Token :=
      [.ofString 1 "block_begin" "", .ofString 1 "name" "if", x, .ofString 1 "block_end" ""]
    let body : List Token := [.ofString 1 "variable_begin" "", x, .ofString 1 "variable_end" ""]
    let branch : List Token :=
      [.ofString 2 "block_begin" "", .ofString 2 "name" "else", .ofString 2 "block_end" ""]
    let inner : List Token := [.ofString 3 "data" "c"]
    let closing : List Token :=
      [.ofString 7 "block_begin" "", .ofString 7 "name" "endif", x, .ofString 8 "block_end" ""]
    let ts := text ++ (opening ++ (body ++ (branch ++ inner ++ closing)))
    NodesNormal none nodes ∧ NodesPrint nodes ts ∧ foldTokens ts = some nodes := by
  intro x nodes text opening body branch inner closing ts
  have hn : NodesNormal none nodes := by
    refine ⟨trivial, fun _ => rfl, ⟨.inl (by decide), ?_, ?_, ?_⟩, fun _ => rfl, trivial⟩
    · simp [Lacks, x, Token.ofString]
    · exact ⟨by simp [Node.Normal, Lacks, x, Token.ofString], fun _ => rfl, trivial⟩
    · exact ⟨by decide, by simp [Lacks], ⟨trivial, fun _ => rfl, trivial⟩, trivial⟩
  have hp : NodesPrint nodes ts := by
    refine ⟨text, _, rfl, ⟨[(1, units "a"), (1, units "b")], by simp, rfl, rfl⟩, _, [],
      (List.append_nil _).symm, ?_, rfl⟩
    refine ⟨opening, body, branch ++ inner, closing, rfl, ?_, ?_, ?_, ?_⟩
    · exact ⟨_, _, _, rfl, rfl, by decide, rfl, rfl, rfl⟩
    · exact ⟨body, [], rfl, ⟨_, _, rfl, rfl, rfl⟩, rfl⟩
    · exact ⟨branch, inner, [], rfl, ⟨_, _, _, rfl, rfl, by decide, rfl, rfl, rfl⟩,
        ⟨inner, [], rfl, ⟨[(3, units "c")], by simp, rfl, rfl⟩, rfl⟩, rfl⟩
    · exact ⟨7, [x], by simp [Lacks, x, Token.ofString], _, _, _, rfl, rfl, by decide, rfl, rfl,
        rfl⟩
  exact ⟨hn, hp, (foldTokens_print nodes hn).2 ts hp⟩

end Stencil.Tree
