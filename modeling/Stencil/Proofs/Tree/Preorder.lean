import Stencil.Proofs.Tree.Growth

/-!
What a tree holds, read from top to bottom. However badly a stream is balanced, the place where a
construction goes on is the last place of everything built so far. So the tree holds what the stream
says, in that order and once each, but for the ends that closed a block.
-/
namespace Stencil.Tree

open Text

mutual

/-- What a node says: a statement before the body and the branches of its block. -/
def Node.preorder : Node → List Event
  | .raw value => [.text value]
  | .output stack => [.output stack]
  | .leaf head => [.statement head]
  | .block head output branches =>
    .statement head :: (nodesPreorder output ++ branchesPreorder branches)

/-- What nodes say, one after another. -/
def nodesPreorder : List Node → List Event
  | [] => []
  | n :: rest => n.preorder ++ nodesPreorder rest

def branchesPreorder : List Branch → List Event
  | [] => []
  | .mk head output :: rest => .statement head :: (nodesPreorder output ++ branchesPreorder rest)

end

/-- Neighbouring texts put together. -/
def joinTexts : List Event → List Event
  | [] => []
  | .text s :: rest =>
    match joinTexts rest with
    | .text t :: more => .text (s ++ t) :: more
    | joined => .text s :: joined
  | e :: rest => e :: joinTexts rest

/-- The names of the open blocks after an event, innermost first, and whether the event is one that
stays: an end of the innermost block does not. -/
def afterEvent (tags : List Units) : Event → Bool × List Units
  | .statement h =>
    match tags with
    | [] => (true, if h.opensBlock then [h.tag] else [])
    | tag :: outer =>
      if h.tag = endMark ++ tag then (false, outer)
      else (true, if h.opensBlock then h.tag :: tag :: outer else tag :: outer)
  | _ => (true, tags)

/-- The events that stay where blocks of these names are open. -/
def keptFrom (tags : List Units) : List Event → List Event
  | [] => []
  | e :: rest =>
    if (afterEvent tags e).1 then e :: keptFrom (afterEvent tags e).2 rest
    else keptFrom (afterEvent tags e).2 rest

theorem nodesPreorder_append (a b : List Node) :
    nodesPreorder (a ++ b) = nodesPreorder a ++ nodesPreorder b := by
  induction a with
  | nil => rfl
  | cons n a ih => simp [nodesPreorder, ih]

theorem branchesPreorder_append (a b : List Branch) :
    branchesPreorder (a ++ b) = branchesPreorder a ++ branchesPreorder b := by
  induction a with
  | nil => rfl
  | cons x a ih =>
    obtain ⟨head, output⟩ := x
    simp [branchesPreorder, ih]

/-- Joining goes from the right, so equal continuations join alike behind anything. -/
theorem joinTexts_append (a b c : List Event) (h : joinTexts b = joinTexts c) :
    joinTexts (a ++ b) = joinTexts (a ++ c) := by
  induction a with
  | nil => exact h
  | cons e a ih =>
    cases e with
    | text s => simp only [List.cons_append, joinTexts, ih]
    | output stack => simp only [List.cons_append, joinTexts, ih]
    | statement head => simp only [List.cons_append, joinTexts, ih]

theorem joinTexts_split (s t : Units) (rest : List Event) :
    joinTexts (.text (s ++ t) :: rest) = joinTexts (.text s :: .text t :: rest) := by
  simp only [joinTexts]
  cases joinTexts rest with
  | nil => rfl
  | cons e more => cases e <;> simp

/-- What an open block whose innermost list is `level` says, with what stands before it. -/
def Frame.written (f : Frame) (level : List Node) : List Event :=
  nodesPreorder f.before.reverse ++ .statement f.head ::
    (nodesPreorder (f.parts level).1 ++ branchesPreorder (f.parts level).2)

/-- What has been built so far, where the innermost list is `level`. -/
def written : List Node → List Frame → List Event
  | level, [] => nodesPreorder level.reverse
  | level, f :: outer => written [] outer ++ f.written level

/-- The innermost list stands at the end of its block. -/
theorem Frame.written_level (f : Frame) (level : List Node) :
    f.written level = f.written [] ++ nodesPreorder level.reverse := by
  cases hb : f.branching <;>
    simp [Frame.written, Frame.parts, hb, branchesPreorder_append, branchesPreorder, nodesPreorder]

/-- The innermost list stands at the end of everything. -/
theorem written_level (level : List Node) (frames : List Frame) :
    written level frames = written [] frames ++ nodesPreorder level.reverse := by
  cases frames with
  | nil => rfl
  | cons f outer => rw [written, Frame.written_level, written, List.append_assoc]

theorem written_cons (n : Node) (level : List Node) (frames : List Frame) :
    written (n :: level) frames = written level frames ++ n.preorder := by
  rw [written_level, written_level level, List.reverse_cons, nodesPreorder_append]
  simp [nodesPreorder]

/-- A block says the same once it is closed. -/
theorem written_close (f : Frame) (level : List Node) (outer : List Frame) :
    written (f.close level) outer = written level (f :: outer) := by
  rw [written, written_level, Frame.close, List.reverse_cons, nodesPreorder_append]
  simp [Frame.written, nodesPreorder, Node.preorder]

theorem written_opened (h : Head) (level : List Node) (frames : List Frame) :
    written [] (.opened h level :: frames) = written level frames ++ [.statement h] := by
  rw [written, written_level level]
  simp [Frame.written, Frame.opened, Frame.parts, nodesPreorder, branchesPreorder]

theorem written_nextBranch (f : Frame) (h : Head) (level : List Node) (outer : List Frame) :
    written [] (f.nextBranch level h :: outer) = written level (f :: outer) ++ [.statement h] := by
  rw [written, written]
  simp [Frame.written, Frame.nextBranch_parts, branchesPreorder_append, branchesPreorder,
    nodesPreorder]

/-- The tree says what has been written, with its open blocks ended where they are. -/
theorem nodesPreorder_closeAll (level : List Node) (frames : List Frame) :
    nodesPreorder (closeAll level frames) = written level frames := by
  induction frames generalizing level with
  | nil => rfl
  | cons f outer ih => rw [closeAll, ih, written_close]

/-- Text goes on with the last text, or stands behind everything. -/
theorem written_addText (value : Units) (level : List Node) (frames : List Frame)
    (rest : List Event) :
    joinTexts (written (addText value level) frames ++ rest) =
      joinTexts (written level frames ++ .text value :: rest) := by
  cases hs : startsRaw level with
  | false =>
    rw [addText_fresh value level hs, written_cons, List.append_assoc]
    rfl
  | true =>
    cases level with
    | nil => simp [startsRaw] at hs
    | cons n level =>
      cases n with
      | raw before =>
        rw [addText, written_cons, written_cons, List.append_assoc, List.append_assoc]
        exact joinTexts_append _ _ _ (joinTexts_split before value rest)
      | _ => simp [startsRaw] at hs

/-- What a statement does to the open blocks, and whether it stays, is decided by its role. -/
theorem afterEvent_statement (tags : List Units) (h : Head) :
    afterEvent tags (.statement h) =
      match h.role? tags with
      | none => (false, tags.tail)
      | some .opening => (true, h.tag :: tags)
      | some _ => (true, tags) := by
  cases tags with
  | nil => by_cases ho : h.opensBlock <;> simp [afterEvent, Head.role?, ho]
  | cons tag outer =>
    by_cases he : h.tag = endMark ++ tag
    · simp [afterEvent, Head.role?, Head.ends, he]
    by_cases hb : h.tag ∈ branchTags
    · have ho : h.opensBlock = false := by
        rw [← Bool.not_eq_true, Head.opensBlock_iff]
        exact h.not_opens_of_branch hb
      simp [afterEvent, Head.role?, Head.ends, he, hb, ho]
    · by_cases ho : h.opensBlock <;> simp [afterEvent, Head.role?, Head.ends, he, hb, ho]

/-- What one event does to the blocks that are open. -/
theorem tags_add (g : Growth) (e : Event) : (g.add e).tags = (afterEvent g.tags e).2 := by
  have h := grows_add g e
  generalize g.add e = g' at h ⊢
  cases h with
  | text | output => rfl
  | closing hr | branch hr | opening hr | leaf hr =>
    rw [afterEvent_statement, hr]
    rfl

/-- What one event adds to what has been written: itself, or nothing if it ends a block. -/
theorem written_add (g : Growth) (e : Event) (rest : List Event) :
    joinTexts (written (g.add e).level (g.add e).frames ++ rest) =
      joinTexts (written g.level g.frames ++
        ((if (afterEvent g.tags e).1 then [e] else []) ++ rest)) := by
  have h := grows_add g e
  generalize g.add e = g' at h ⊢
  cases h with
  | text => exact written_addText _ _ _ rest
  | output => simp [afterEvent, written_cons, Node.preorder]
  | closing hr | branch hr | opening hr | leaf hr =>
    rw [afterEvent_statement, hr]
    simp [written_close, written_nextBranch, written_opened, written_cons, Node.preorder]

/-- What a whole run of events adds to what has been written. -/
theorem written_run (es : List Event) (g : Growth) :
    joinTexts (written (es.foldl Growth.add g).level (es.foldl Growth.add g).frames) =
      joinTexts (written g.level g.frames ++ keptFrom g.tags es) := by
  induction es generalizing g with
  | nil => simp [keptFrom]
  | cons e es ih =>
    rw [List.foldl_cons, ih, written_add, tags_add]
    cases hk : (afterEvent g.tags e).1 <;> simp [keptFrom, hk]

theorem preorder_foldEvents (es : List Event) :
    joinTexts (nodesPreorder (foldEvents es)) = joinTexts (keptFrom [] es) := by
  rw [foldEvents, Growth.tree, nodesPreorder_closeAll, written_run]
  rfl

/-- Nothing is lost, nothing is doubled and nothing changes its place, on any stream; only a name
that cannot be converted to text keeps a stream from having a tree. -/
theorem preorder_foldTokens (ts : List Token) (hd : TextData ts) :
    ((∃ tree, foldTokens ts = some tree) ↔ ∀ group ∈ segments ts, group.Named) ∧
      ∀ tree, foldTokens ts = some tree →
        ∃ es, (segments ts).mapM Group.event = some es ∧
          joinTexts (nodesPreorder tree) = joinTexts (keptFrom [] es) := by
  refine ⟨exists_foldTokens_iff hd, ?_⟩
  intro tree htree
  obtain ⟨es, hes, rfl⟩ := exists_segments_of_foldTokens htree
  exact ⟨es, hes, preorder_foldEvents es⟩

/-- A stray branch, two pieces of text, a stray end, and a block and a group that the stream leaves
open. -/
theorem preorder_foldTokens_unbalanced :
    let ts : List Token :=
      [(1, "block_begin", ""), (1, "name", "else"), (1, "block_end", ""), (2, "block_begin", ""),
        (2, "name", "if"), (2, "block_end", ""), (2, "data", "a"), (3, "data", "b"),
        (3, "block_begin", ""), (3, "name", "endfor"), (3, "block_end", ""),
        (4, "variable_begin", "")].map fun (line, kind, value) => .ofString line kind value
    TextData ts ∧ ∃ tree, foldTokens ts = some tree ∧
      joinTexts (nodesPreorder tree) =
        [.statement ⟨units "else", 1, []⟩, .statement ⟨units "if", 2, []⟩, .text (units "ab"),
          .statement ⟨units "endfor", 3, []⟩, .output []] := by
  intro ts
  have hd : TextData ts := by
    intro t ht _
    obtain ⟨_, _, rfl⟩ := List.mem_map.mp ht
    exact ⟨_, rfl⟩
  obtain ⟨-, hall⟩ := preorder_foldTokens ts hd
  refine ⟨hd, _, rfl, ?_⟩
  obtain ⟨es, hes, hpre⟩ := hall _ rfl
  rw [← groups_eq_segments] at hes
  cases hes
  rw [hpre]
  rfl

end Stencil.Tree
