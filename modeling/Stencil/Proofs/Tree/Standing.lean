import Stencil.Proofs.Tree.Growth

/-!
Where the statements of a folded tree stand. However badly a stream is balanced, the statements of
its tree are those of the stream, each in the role and at the depth at which it was read.
-/
namespace Stencil.Tree

open Text

structure Held extends Standing where
  record : Json

def Node.record (n : Node) : Json := (n.toJson.field? "token").getD .null

mutual

/-- The statements of a node that stands in some number of blocks. -/
def Node.held (depth : Nat) : Node → List Held
  | .leaf head => [⟨⟨head, .leaf, depth⟩, (Node.leaf head).record⟩]
  | .block head output branches =>
    ⟨⟨head, .opening, depth⟩, (Node.block head output branches).record⟩ ::
      (nodesHeld (depth + 1) output ++ branchesHeld (depth + 1) branches)
  | _ => []

def nodesHeld (depth : Nat) : List Node → List Held
  | [] => []
  | n :: rest => n.held depth ++ nodesHeld depth rest

def Branch.held (depth : Nat) : Branch → List Held
  | .mk head output =>
    ⟨⟨head, .branch, depth⟩, (Branch.mk head output).toJson⟩ :: nodesHeld depth output

def branchesHeld (depth : Nat) : List Branch → List Held
  | [] => []
  | b :: rest => b.held depth ++ branchesHeld depth rest

end

def standings (depth : Nat) (nodes : List Node) : List Standing :=
  (nodesHeld depth nodes).map (·.toStanding)

def branchStandings (depth : Nat) (branches : List Branch) : List Standing :=
  (branchesHeld depth branches).map (·.toStanding)

/-- Where the statements of an open block stand and of what is before it, if the innermost list is
`level`. -/
def Frame.standings (f : Frame) (depth : Nat) (level : List Node) : List Standing :=
  Tree.standings depth f.before.reverse ++ ⟨f.head, .opening, depth⟩ ::
    (Tree.standings (depth + 1) (f.parts level).1 ++ branchStandings (depth + 1) (f.parts level).2)

def standingsSoFar : List Node → List Frame → List Standing
  | level, [] => standings 0 level.reverse
  | level, f :: outer => standingsSoFar [] outer ++ f.standings outer.length level

section Standings

variable {depth : Nat}

@[simp] theorem standings_nil : standings depth [] = [] := rfl

@[simp] theorem branchStandings_nil : branchStandings depth [] = [] := rfl

theorem standings_append (xs ys : List Node) :
    standings depth (xs ++ ys) = standings depth xs ++ standings depth ys := by
  induction xs with
  | nil => rfl
  | cons x xs ih => simpa [standings, nodesHeld] using ih

theorem branchStandings_append (xs ys : List Branch) :
    branchStandings depth (xs ++ ys) = branchStandings depth xs ++ branchStandings depth ys := by
  induction xs with
  | nil => rfl
  | cons x xs ih => simpa [branchStandings, branchesHeld] using ih

theorem branchStandings_mk (head : Head) (output : List Node) :
    branchStandings depth [.mk head output] =
      ⟨head, .branch, depth⟩ :: standings depth output := by
  simp [branchStandings, branchesHeld, Branch.held, standings]

theorem standings_block (head : Head) (output : List Node) (branches : List Branch) :
    standings depth [.block head output branches] =
      ⟨head, .opening, depth⟩ ::
        (standings (depth + 1) output ++ branchStandings (depth + 1) branches) := by
  simp [standings, nodesHeld, Node.held, branchStandings]

/-- The innermost list stands at the end of everything. -/
theorem standingsSoFar_level (level : List Node) (frames : List Frame) :
    standingsSoFar level frames =
      standingsSoFar [] frames ++ standings frames.length level.reverse := by
  cases frames with
  | nil => rfl
  | cons f outer =>
    cases hb : f.branching <;>
      simp [standingsSoFar, Frame.standings, Frame.parts, hb, branchStandings_append,
        branchStandings_mk]

theorem standingsSoFar_cons (n : Node) (level : List Node) (frames : List Frame) :
    standingsSoFar (n :: level) frames =
      standingsSoFar level frames ++ standings frames.length [n] := by
  rw [standingsSoFar_level, standingsSoFar_level level, List.reverse_cons, standings_append,
    List.append_assoc]

/-- The statements of a block stand where they stood once it is closed. -/
theorem standingsSoFar_close (f : Frame) (level : List Node) (outer : List Frame) :
    standingsSoFar (f.close level) outer = standingsSoFar level (f :: outer) := by
  rw [Frame.close, standingsSoFar_cons, standingsSoFar_level, standings_block, standingsSoFar,
    Frame.standings, List.append_assoc]

theorem standingsSoFar_opened (h : Head) (level : List Node) (frames : List Frame) :
    standingsSoFar [] (.opened h level :: frames) =
      standingsSoFar level frames ++ [⟨h, .opening, frames.length⟩] := by
  rw [standingsSoFar, standingsSoFar_level level]
  simp [Frame.standings, Frame.opened, Frame.parts]

theorem standingsSoFar_nextBranch (f : Frame) (h : Head) (level : List Node)
    (outer : List Frame) :
    standingsSoFar [] (f.nextBranch level h :: outer) =
      standingsSoFar level (f :: outer) ++ [⟨h, .branch, outer.length + 1⟩] := by
  rw [standingsSoFar, standingsSoFar]
  simp [Frame.standings, Frame.nextBranch_parts, branchStandings_append, branchStandings_mk]

/-- Text makes no difference. -/
theorem standingsSoFar_addText (value : Units) (level : List Node) (frames : List Frame) :
    standingsSoFar (addText value level) frames = standingsSoFar level frames := by
  have fresh (h : startsRaw level = false) :
      standingsSoFar (addText value level) frames = standingsSoFar level frames := by
    rw [addText_fresh value level h, standingsSoFar_cons]
    exact List.append_nil _
  cases level with
  | nil => exact fresh rfl
  | cons n rest =>
    cases n with
    | raw before =>
      rw [addText, standingsSoFar_cons, standingsSoFar_cons]
      rfl
    | _ => exact fresh rfl

theorem standings_closeAll (level : List Node) (frames : List Frame) :
    standings 0 (closeAll level frames) = standingsSoFar level frames := by
  induction frames generalizing level with
  | nil => rfl
  | cons f outer ih => rw [closeAll, ih, standingsSoFar_close]

/-- What a step adds is what it takes from the stream. -/
theorem Grows.standings {g g' : Growth} {e : Event} (h : Grows g e g') (es : List Event) :
    standingsSoFar g.level g.frames ++ standingsFrom g.tags (e :: es) =
      standingsSoFar g'.level g'.frames ++ standingsFrom g'.tags es := by
  cases h with
  | text =>
    rw [standingsSoFar_addText]
    rfl
  | output =>
    rw [standingsSoFar_cons, standingsFrom]
    simp [Growth.tags, Tree.standings, nodesHeld, Node.held]
  | closing hr =>
    rw [standingsSoFar_close, standingsFrom, hr]
    rfl
  | branch hr =>
    rw [standingsSoFar_nextBranch, standingsFrom, hr]
    simp [Growth.tags]
  | opening hr =>
    rw [standingsSoFar_opened, standingsFrom, hr]
    simp [Growth.tags, Frame.opened]
  | leaf hr =>
    rw [standingsSoFar_cons, standingsFrom, hr]
    simp [Growth.tags, Tree.standings, nodesHeld, Node.held]

/-- The statements of a tree are those of its stream that stay. -/
theorem standings_foldEvents (es : List Event) :
    standings 0 (foldEvents es) = standingsFrom [] es := by
  have run (es : List Event) (g : Growth) :
      standingsSoFar (es.foldl Growth.add g).level (es.foldl Growth.add g).frames =
        standingsSoFar g.level g.frames ++ standingsFrom g.tags es := by
    induction es generalizing g with
    | nil => exact (List.append_nil _).symm
    | cons e es ih => rw [List.foldl_cons, ih, (grows_add g e).standings]
  rw [foldEvents, Growth.tree, standings_closeAll, run]
  rfl

/-- A stray branch, two last branches of one block, and an end of a block that is not the innermost
one. -/
example :
    standings 0 (foldEvents (["else", "if", "else", "else", "for", "endif"].map fun name =>
        .statement ⟨units name, 1, []⟩)) =
      [("else", .leaf, 0), ("if", .opening, 0), ("else", .branch, 1), ("else", .branch, 1),
        ("for", .opening, 1), ("endif", .leaf, 2)].map fun (name, role, depth) =>
          ⟨⟨units name, 1, []⟩, role, depth⟩ := by
  rfl

/-- A statement that stays in a stream has the role that it is read in. -/
theorem role_of_mem_standingsFrom {t : Standing} {tags : List Units} {es : List Event}
    (h : t ∈ standingsFrom tags es) :
    ∃ outer, t.head.role? outer = some t.role ∧ t.depth = outer.length := by
  induction es generalizing tags with
  | nil => cases h
  | cons e es ih =>
    cases e with
    | text | output => exact ih h
    | statement head =>
      rw [standingsFrom] at h
      split at h
      · exact ih h
      · rcases List.mem_cons.mp h with rfl | h
        · exact ⟨tags, ‹_›, rfl⟩
        · exact ih h
      · rcases List.mem_cons.mp h with rfl | h
        · exact ⟨tags, ‹_›, rfl⟩
        · exact ih h

/-- A statement of a folded tree has the role and the depth at which it was read. -/
theorem role_of_held {es : List Event} {t : Held} (h : t ∈ nodesHeld 0 (foldEvents es)) :
    ∃ tags, t.head.role? tags = some t.role ∧ t.depth = tags.length := by
  have hmem : t.toStanding ∈ standings 0 (foldEvents es) := List.mem_map_of_mem h
  rw [standings_foldEvents] at hmem
  exact role_of_mem_standingsFrom hmem

theorem opens_of_held {es : List Event} {t : Held} (h : t ∈ nodesHeld 0 (foldEvents es))
    (hr : t.role = .opening) : t.head.Opens := by
  obtain ⟨tags, hrole, -⟩ := role_of_held h
  exact Head.opens_of_role? (hrole.trans (congrArg some hr))

end Standings

end Stencil.Tree
