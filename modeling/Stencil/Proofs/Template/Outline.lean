import Stencil.Proofs.Template.Statement
import Stencil.Template.Outline

/-!
What the block structure of an accepted template says about its pieces. Each part stands for the
pieces it was read from: a block for its own tag, what is inside it, and the end tag that the
grammar paired with it. One piece more takes the reading one step on, and each step keeps the parts
and the open blocks in accord with the pieces so far.
-/
namespace Stencil.Template

open Reading

/-- The piece is a group whose first symbol names the statement. -/
def Statement.Shows (s : Statement) (piece : Piece) : Prop :=
  ∃ nameLine closing : Nat,
    piece = .group .tag s.line (⟨nameLine, .name s.name⟩ :: s.rest) (some closing)

def EndShows (block : String) (piece : Piece) : Prop :=
  ∃ s : Statement, s.name = "end" ++ block ∧ s.Shows piece

mutual

def Item.Spans : Item → List Piece → Prop
  | .text line s, ps => ps = [.text line s]
  | .output line symbols, ps =>
    ∃ closing : Nat, ps = [.group .output line symbols (some closing)]
  | .tag line name rest, ps =>
    ∃ piece, ps = [piece] ∧ (Statement.mk line name rest).Shows piece ∧ name ∈ leafNames ∧
      (name = "set" → Assigns rest)
  | .block line name rest body sections, ps =>
    ∃ opening inner others closing, ps = opening :: (inner ++ (others ++ [closing])) ∧
      (Statement.mk line name rest).Shows opening ∧ name ∈ openingNames ∧ ItemsSpan body inner ∧
      SectionsSpan name sections others ∧ EndShows name closing

/-- The parts stand for these pieces, one after another. -/
def ItemsSpan : List Item → List Piece → Prop
  | [], ps => ps = []
  | item :: rest, ps => ∃ here after, ps = here ++ after ∧ item.Spans here ∧ ItemsSpan rest after

/-- The further sections of a block stand for these pieces. -/
def SectionsSpan (block : String) : List Section → List Piece → Prop
  | [], ps => ps = []
  | .mk line name rest body :: more, ps =>
    ∃ opening inner others, ps = opening :: (inner ++ others) ∧
      (Statement.mk line name rest).Shows opening ∧ Continues block name ∧ ItemsSpan body inner ∧
      SectionsSpan block more others

end

theorem itemsSpan_append {xs ys : List Item} {ps qs : List Piece} (hx : ItemsSpan xs ps)
    (hy : ItemsSpan ys qs) : ItemsSpan (xs ++ ys) (ps ++ qs) := by
  induction xs generalizing ps with
  | nil =>
    have hps : ps = [] := hx
    rw [hps]
    exact hy
  | cons x xs ih =>
    obtain ⟨here, after, rfl, hh, ha⟩ := hx
    exact ⟨here, after ++ qs, by rw [List.append_assoc], hh, ih ha⟩

theorem itemsSpan_snoc {xs : List Item} {x : Item} {ps qs : List Piece} (hx : ItemsSpan xs ps)
    (hy : x.Spans qs) : ItemsSpan (xs ++ [x]) (ps ++ qs) :=
  itemsSpan_append hx ⟨qs, [], (List.append_nil qs).symm, hy, rfl⟩

theorem sectionsSpan_append {block : String} {xs ys : List Section} {ps qs : List Piece}
    (hx : SectionsSpan block xs ps) (hy : SectionsSpan block ys qs) :
    SectionsSpan block (xs ++ ys) (ps ++ qs) := by
  induction xs generalizing ps with
  | nil =>
    have hps : ps = [] := hx
    rw [hps]
    exact hy
  | cons x xs ih =>
    obtain ⟨line, name, rest, body⟩ := x
    obtain ⟨opening, inner, others, rfl, hs, hc, hb, hm⟩ := hx
    exact ⟨opening, inner, others ++ qs, by simp, hs, hc, hb, ih hm⟩

/-- A part more at the end of the last section. -/
theorem sectionsSpan_snoc {block : String} {xs : List Section} {head : Statement}
    {body : List Item} {item : Item} {ps qs : List Piece}
    (hx : SectionsSpan block (xs ++ [head.section body]) ps) (hi : item.Spans qs) :
    SectionsSpan block (xs ++ [head.section (body ++ [item])]) (ps ++ qs) := by
  induction xs generalizing ps with
  | nil =>
    obtain ⟨opening, inner, others, rfl, hs, hc, hb, hm⟩ := hx
    have hnil : others = [] := hm
    exact ⟨opening, inner ++ qs, [], by simp [hnil], hs, hc, itemsSpan_snoc hb hi, rfl⟩
  | cons x xs ih =>
    obtain ⟨line, name, rest, inside⟩ := x
    obtain ⟨opening, inner, others, rfl, hs, hc, hb, hm⟩ := hx
    exact ⟨opening, inner, others ++ qs, by simp, hs, hc, hb, ih hm⟩

structure OpenBlock.Spans (b : OpenBlock) (items : List Item) (ps : List Piece) : Prop where
  named : b.head.name ∈ openingNames
  waits : ∀ name ∈ b.opening.wanted, MayFollow b.head.name name
  pieces : ∃ opening inner others, ps = opening :: (inner ++ others) ∧ b.head.Shows opening ∧
    ItemsSpan (b.sections items).1 inner ∧ SectionsSpan b.head.name (b.sections items).2 others

/-- The innermost list and the open blocks are in accord with the pieces so far. -/
def OpenSpan : List Item → List OpenBlock → List Piece → Prop
  | items, [], ps => ItemsSpan items.reverse ps
  | items, b :: outer, ps =>
    ∃ front back, ps = front ++ back ∧ OpenSpan b.before outer front ∧ b.Spans items back

/-- What has been read is in accord with the pieces so far. -/
def Progress.Spans (p : Progress) (ps : List Piece) : Prop := OpenSpan p.items p.blocks ps

/-- A part more at the end of a block. -/
theorem OpenBlock.Spans.snoc {b : OpenBlock} {items : List Item} {item : Item}
    {ps qs : List Piece} (h : b.Spans items ps) (hi : item.Spans qs) :
    b.Spans (item :: items) (ps ++ qs) := by
  obtain ⟨opening, inner, others, rfl, hs, hb, ho⟩ := h.pieces
  refine ⟨h.named, h.waits, ?_⟩
  cases hd : b.division with
  | none =>
    simp only [OpenBlock.sections, hd, List.reverse_cons] at hb ho ⊢
    have hnil : others = [] := ho
    refine ⟨opening, inner ++ qs, [], by simp [hnil], hs, itemsSpan_snoc hb hi, rfl⟩
  | some d =>
    simp only [OpenBlock.sections, hd, List.reverse_cons] at hb ho ⊢
    exact ⟨opening, inner, others ++ qs, by simp, hs, hb, sectionsSpan_snoc ho hi⟩

theorem openSpan_snoc {items : List Item} {blocks : List OpenBlock} {item : Item}
    {ps qs : List Piece} (h : OpenSpan items blocks ps) (hi : item.Spans qs) :
    OpenSpan (item :: items) blocks (ps ++ qs) := by
  cases blocks with
  | nil =>
    change ItemsSpan (item :: items).reverse _
    rw [List.reverse_cons]
    exact itemsSpan_snoc h hi
  | cons b outer =>
    obtain ⟨front, back, rfl, hf, hb⟩ := h
    exact ⟨front, back ++ qs, List.append_assoc front back qs, hf, hb.snoc hi⟩

inductive Progress.Step (p : Progress) : Piece → Progress → Prop where
  | text (line : Nat) (s : String) : Step p (.text line s) ⟨.text line s :: p.items, p.blocks⟩
  | output (line : Nat) (symbols : List Symbol) (closing : Nat) :
    Step p (.group .output line symbols (some closing))
      ⟨.output line symbols :: p.items, p.blocks⟩
  | leaf (s : Statement) (piece : Piece) (shows : s.Shows piece) (named : s.name ∈ leafNames)
    (assigns : s.name = "set" → Assigns s.rest) :
    Step p piece ⟨.tag s.line s.name s.rest :: p.items, p.blocks⟩
  | opening (s : Statement) (o : Opening) (piece : Piece) (shows : s.Shows piece)
    (named : s.name ∈ openingNames) (waits : ∀ name ∈ o.wanted, MayFollow s.name name) :
    Step p piece ⟨[], ⟨s, o, p.items, none⟩ :: p.blocks⟩
  | section (s : Statement) (wanted : List String) (piece : Piece) (b : OpenBlock)
    (outer : List OpenBlock) (blocks : p.blocks = b :: outer) (shows : s.Shows piece)
    (continues : Continues b.head.name s.name)
    (waits : ∀ name ∈ wanted, MayFollow b.head.name name) :
    Step p piece ⟨[], b.nextSection p.items s wanted :: outer⟩
  | close (piece : Piece) (b : OpenBlock) (outer : List OpenBlock)
    (blocks : p.blocks = b :: outer) (shows : EndShows b.head.name piece) :
    Step p piece ⟨b.close p.items, outer⟩

/-- One step keeps what has been read in accord with the pieces. -/
theorem Progress.Step.spans {p p' : Progress} {piece : Piece} {ps : List Piece}
    (hs : p.Step piece p') (h : p.Spans ps) : p'.Spans (ps ++ [piece]) := by
  cases hs with
  | text line s => exact openSpan_snoc h rfl
  | output line symbols closing => exact openSpan_snoc h ⟨closing, rfl⟩
  | leaf s piece shows named assigns => exact openSpan_snoc h ⟨_, rfl, shows, named, assigns⟩
  | opening s o piece shows named waits =>
    exact ⟨ps, [piece], rfl, h, named, waits, piece, [], [], rfl, shows, rfl, rfl⟩
  | «section» s wanted piece b outer blocks shows continues waits =>
    rw [Progress.Spans, blocks] at h
    obtain ⟨front, back, rfl, hf, hb⟩ := h
    obtain ⟨opening, inner, others, rfl, hso, hbody, hothers⟩ := hb.pieces
    refine ⟨front, opening :: (inner ++ others) ++ [piece], List.append_assoc _ _ _, hf,
      hb.named, waits, opening, inner, others ++ [piece], by simp, hso, ?_, ?_⟩
    · cases hd : b.division <;> simpa [OpenBlock.sections, OpenBlock.nextSection, hd] using hbody
    · have hnew : SectionsSpan b.head.name [s.section []] [piece] :=
        ⟨piece, [], [], rfl, shows, continues, rfl, rfl⟩
      have hall := sectionsSpan_append hothers hnew
      cases hd : b.division <;>
        simpa [OpenBlock.sections, OpenBlock.nextSection, hd] using hall
  | close piece b outer blocks shows =>
    rw [Progress.Spans, blocks] at h
    obtain ⟨front, back, rfl, hf, hb⟩ := h
    obtain ⟨opening, inner, others, rfl, hso, hbody, hothers⟩ := hb.pieces
    rw [List.append_assoc]
    refine openSpan_snoc hf ⟨opening, inner, others, piece, by simp, hso, hb.named, hbody, ?_,
      shows⟩
    exact hothers

theorem fail_ne_ok {cause : Cause} {edge : Edge} {s rest : List Symbol} {a : α} :
    (fail cause : Reading α) edge s ≠ .ok (a, rest) := by
  intro h
  obtain ⟨n, s₁, _, h₂⟩ := bind_eq_ok.mp h
  exact throw_ne_ok h₂

theorem failExpecting_ne_ok {wanted : String} {edge : Edge} {s rest : List Symbol} {a : α} :
    (failExpecting wanted : Reading α) edge s ≠ .ok (a, rest) := by
  intro h
  obtain ⟨found, s₁, _, h₂⟩ := bind_eq_ok.mp h
  obtain ⟨e, s₂, _, h₄⟩ := bind_eq_ok.mp h₂
  split at h₄
  · exact fail_ne_ok h₄
  · obtain ⟨got, s₃, _, h₆⟩ := bind_eq_ok.mp h₄
    exact fail_ne_ok h₆

/-- The end of a group is only found where the group is closed. -/
theorem closed_of_expectEnd {kind : Delimiter} {edge : Edge} {s rest : List Symbol} {u : Unit}
    (h : expectEnd kind edge s = .ok (u, rest)) :
    ∃ kind line beyond, edge = .closed kind line beyond := by
  obtain ⟨found, s₁, _, h₂⟩ := bind_eq_ok.mp h
  obtain ⟨e, s₂, h₃, h₄⟩ := bind_eq_ok.mp h₂
  obtain ⟨rfl, rfl⟩ := read_eq_ok.mp h₃
  split at h₄
  · exact ⟨_, _, _, rfl⟩
  · exact absurd h₄ failExpecting_ne_ok

theorem closed_of_openingEnd {edge : Edge} {s rest : List Symbol} {u : Unit}
    (h : openingEnd edge s = .ok (u, rest)) :
    ∃ kind line beyond, edge = .closed kind line beyond := by
  obtain ⟨colon, s₁, _, h₂⟩ := bind_eq_ok.mp h
  exact closed_of_expectEnd h₂

theorem closing_of_groupEdge {kind kind' : Delimiter} {closing : Option Nat} {lastLine : Nat}
    {isLast : Bool} {failure beyond : Option Failure} {line : Nat}
    (h : groupEdge kind closing lastLine isLast failure = .closed kind' line beyond) :
    ∃ line, closing = some line := by
  cases closing with
  | some line => exact ⟨line, rfl⟩
  | none => cases failure <;> simp [groupEdge] at h


/-- A statement that an open block waits for begins another section or ends the block. -/
theorem result_of_continueBlock {b : OpenBlock} {outer : List OpenBlock} {items : List Item}
    {s : Statement} {edge : Edge} {symbols rest : List Symbol} {p : Progress}
    (hw : MayFollow b.head.name s.name)
    (h : continueBlock b outer items s edge symbols = .ok (p, rest)) :
    (∃ kind line beyond, edge = .closed kind line beyond) ∧
      ((Continues b.head.name s.name ∧ ∃ wanted,
          (∀ name ∈ wanted, name ∈ b.opening.wanted ∨ name = "end" ++ b.head.name) ∧
          p = ⟨[], b.nextSection items s wanted :: outer⟩) ∨
        (s.name = "end" ++ b.head.name ∧ p = ⟨b.close items, outer⟩)) := by
  unfold continueBlock at h
  obtain ⟨_, s₁, _, h₂⟩ := bind_eq_ok.mp h
  dsimp only at h₂
  generalize b.head.name = block at h₂ hw
  generalize s.name = name at h₂ hw
  split at h₂
  case h_1 =>
    obtain ⟨_, s₂, _, h₄⟩ := bind_eq_ok.mp h₂
    obtain ⟨_, s₃, h₅, h₆⟩ := bind_eq_ok.mp h₄
    refine ⟨closed_of_openingEnd h₅, .inl ⟨.inl ⟨rfl, rfl⟩, b.opening.wanted, ?_, ?_⟩⟩
    · exact fun name hname => .inl hname
    · exact (pure_eq_ok.mp h₆).1.symm
  case h_2 =>
    obtain ⟨_, s₃, h₅, h₆⟩ := bind_eq_ok.mp h₂
    refine ⟨closed_of_openingEnd h₅, .inl ⟨.inr ⟨rfl, .inl rfl⟩, ["endif"], ?_, ?_⟩⟩
    · simp
    · exact (pure_eq_ok.mp h₆).1.symm
  case h_3 =>
    obtain ⟨_, s₃, h₅, h₆⟩ := bind_eq_ok.mp h₂
    refine ⟨closed_of_openingEnd h₅, .inl ⟨.inr ⟨rfl, .inr rfl⟩, ["endfor"], ?_, ?_⟩⟩
    · simp
    · exact (pure_eq_ok.mp h₆).1.symm
  case h_4 hif helse hfor =>
    have hend : name = "end" ++ block := by
      rcases hw with hw | ⟨hn, hb⟩ | ⟨hn, hb | hb⟩
      · exact hw
      · exact (hif hb hn).elim
      · exact (helse hb hn).elim
      · exact (hfor hb hn).elim
    have last {s₂ : List Symbol} (h : (do
        expectEnd .tag
        return ⟨b.close items, outer⟩ : Reading Progress) edge s₂ = .ok (p, rest)) :
        (∃ kind line beyond, edge = .closed kind line beyond) ∧ p = ⟨b.close items, outer⟩ := by
      obtain ⟨_, s₃, h₃, h₄⟩ := bind_eq_ok.mp h
      exact ⟨closed_of_expectEnd h₃, (pure_eq_ok.mp h₄).1.symm⟩
    have labelled : (∃ kind line beyond, edge = .closed kind line beyond) ∧
        p = ⟨b.close items, outer⟩ := by
      split at h₂
      · obtain ⟨_, s₂, h₃, _⟩ := bind_eq_ok.mp h₂
        exact absurd h₃ fail_ne_ok
      · generalize b.opening.label = label at h₂
        cases label with
        | some label =>
          obtain ⟨_, s₂, _, h₄⟩ := bind_eq_ok.mp h₂
          exact last h₄
        | none => exact last h₂
    exact ⟨labelled.1, .inr ⟨hend, labelled.2⟩⟩

theorem rest_of_advance {x : Symbol} {edge : Edge} {s rest : List Symbol} {u : Unit}
    (h : advance edge (x :: s) = .ok (u, rest)) : rest = s := by
  obtain ⟨found, s₁, h₁, h₂⟩ := bind_eq_ok.mp h
  obtain ⟨rfl, rfl⟩ := get_eq_ok.mp h₁
  obtain ⟨_, s₂, h₃, h₄⟩ := bind_eq_ok.mp h₂
  obtain rfl := set_eq_ok.mp h₃
  obtain ⟨found, s₃, h₅, h₆⟩ := bind_eq_ok.mp h₄
  obtain ⟨rfl, rfl⟩ := get_eq_ok.mp h₅
  obtain ⟨e, s₄, h₇, h₈⟩ := bind_eq_ok.mp h₆
  obtain ⟨rfl, rfl⟩ := read_eq_ok.mp h₇
  split at h₈
  · exact absurd h₈ throw_ne_ok
  · exact (pure_eq_ok.mp h₈).2.symm

/-- Any other statement is complete or opens a block, as its name tells. -/
theorem result_of_beginStatement {p p' : Progress} {s : Statement} {nameLine : Nat} {x : Symbol}
    {edge : Edge} {rest : List Symbol}
    (h : beginStatement p s nameLine edge (x :: s.rest) = .ok (p', rest)) :
    (∃ kind line beyond, edge = .closed kind line beyond) ∧
      ((s.name ∈ leafNames ∧ (s.name = "set" → Assigns s.rest) ∧
          p' = ⟨.tag s.line s.name s.rest :: p.items, p.blocks⟩) ∨
        (s.name ∈ openingNames ∧ ∃ o : Opening, (∀ name ∈ o.wanted, MayFollow s.name name) ∧
          p' = ⟨[], ⟨s, o, p.items, none⟩ :: p.blocks⟩)) := by
  unfold beginStatement at h
  cases hs : statement s.name nameLine with
  | none =>
    rw [hs] at h
    exact absurd h throw_ne_ok
  | some head =>
    rw [hs] at h
    obtain ⟨_, s₁, h₁, h₂⟩ := bind_eq_ok.mp h
    obtain rfl := rest_of_advance h₁
    obtain ⟨found, s₂, h₃, h₄⟩ := bind_eq_ok.mp h₂
    cases found with
    | none =>
      obtain ⟨_, s₃, h₅, h₆⟩ := bind_eq_ok.mp h₄
      obtain ⟨hn, ha⟩ := leaf_of_statement hs h₃
      exact ⟨closed_of_expectEnd h₅, .inl ⟨hn, ha, (pure_eq_ok.mp h₆).1.symm⟩⟩
    | some o =>
      obtain ⟨_, s₃, h₅, h₆⟩ := bind_eq_ok.mp h₄
      obtain ⟨hn, hw⟩ := opening_of_statement hs h₃
      exact ⟨closed_of_openingEnd h₅, .inr ⟨hn, o, hw, (pure_eq_ok.mp h₆).1.symm⟩⟩

theorem run_eq_ok {r : Reading α} {edge : Edge} {symbols : List Symbol} {a : α}
    (h : r.run edge symbols = .ok a) : ∃ rest, r edge symbols = .ok (a, rest) := by
  change (r edge symbols).map Prod.fst = .ok a at h
  cases hr : r edge symbols with
  | error e => rw [hr] at h; cases h
  | ok p =>
    obtain ⟨a', rest⟩ := p
    rw [hr] at h
    cases h
    exact ⟨rest, rfl⟩

theorem state_of_checkFront {edge : Edge} {s rest : List Symbol} {u : Unit}
    (h : checkFront edge s = .ok (u, rest)) : rest = s := by
  obtain ⟨found, s₁, h₁, h₂⟩ := bind_eq_ok.mp h
  obtain ⟨rfl, rfl⟩ := get_eq_ok.mp h₁
  obtain ⟨e, s₂, h₃, h₄⟩ := bind_eq_ok.mp h₂
  obtain ⟨rfl, rfl⟩ := read_eq_ok.mp h₃
  split at h₄
  · exact absurd h₄ throw_ne_ok
  · exact (pure_eq_ok.mp h₄).2.symm

/-- A group that is not a statement is a printed value. -/
theorem result_of_outputGroup {p p' : Progress} {line : Nat} {edge : Edge}
    {symbols rest : List Symbol} (h : outputGroup p line edge symbols = .ok (p', rest)) :
    (∃ kind line beyond, edge = .closed kind line beyond) ∧
      p' = ⟨.output line symbols :: p.items, p.blocks⟩ := by
  obtain ⟨_, s₁, h₁, h₂⟩ := bind_eq_ok.mp h
  obtain rfl := state_of_checkFront h₁
  obtain ⟨found, s₂, h₃, h₄⟩ := bind_eq_ok.mp h₂
  obtain ⟨rfl, rfl⟩ := get_eq_ok.mp h₃
  obtain ⟨_, s₃, _, h₆⟩ := bind_eq_ok.mp h₄
  obtain ⟨_, s₄, h₇, h₈⟩ := bind_eq_ok.mp h₆
  exact ⟨closed_of_expectEnd h₇, (pure_eq_ok.mp h₈).1.symm⟩

/-- A statement that is accepted takes the reading one step on. -/
theorem step_of_tagGroup {p p' : Progress} {ps : List Piece} {line : Nat} {edge : Edge}
    {symbols rest : List Symbol} (hp : p.Spans ps)
    (h : tagGroup p line edge symbols = .ok (p', rest)) :
    (∃ kind line beyond, edge = .closed kind line beyond) ∧
      ∀ closing : Nat, p.Step (.group .tag line symbols (some closing)) p' := by
  obtain ⟨_, s₁, h₁, h₂⟩ := bind_eq_ok.mp h
  obtain rfl := state_of_checkFront h₁
  obtain ⟨first, s₂, h₃, h₄⟩ := bind_eq_ok.mp h₂
  obtain ⟨found, s₃, h₅, h₆⟩ := bind_eq_ok.mp h₃
  obtain ⟨rfl, rfl⟩ := get_eq_ok.mp h₅
  obtain ⟨rfl, rfl⟩ := pure_eq_ok.mp h₆
  cases s₁ with
  | nil => exact absurd h₄ fail_ne_ok
  | cons x symbols =>
    obtain ⟨nameLine, word⟩ := x
    cases word with
    | name name =>
      obtain ⟨found, s₄, h₇, h₈⟩ := bind_eq_ok.mp h₄
      obtain ⟨rfl, rfl⟩ := get_eq_ok.mp h₇
      have shows (closing : Nat) : (Statement.mk line name symbols).Shows
          (.group .tag line (⟨nameLine, .name name⟩ :: symbols) (some closing)) :=
        ⟨nameLine, closing, rfl⟩
      have begun (h : beginStatement p ⟨line, name, symbols⟩ nameLine edge
          (⟨nameLine, .name name⟩ :: symbols) = .ok (p', rest)) :
          (∃ kind line beyond, edge = .closed kind line beyond) ∧ ∀ closing : Nat,
            p.Step (.group .tag line (⟨nameLine, .name name⟩ :: symbols) (some closing)) p' := by
        obtain ⟨hc, ⟨hn, ha, rfl⟩ | ⟨hn, o, hw, rfl⟩⟩ := result_of_beginStatement h
        · exact ⟨hc, fun closing => .leaf _ _ (shows closing) hn ha⟩
        · exact ⟨hc, fun closing => .opening _ _ _ (shows closing) hn hw⟩
      obtain ⟨level, blocks⟩ := p
      cases blocks with
      | nil => exact begun h₈
      | cons b outer =>
        obtain ⟨front, back, -, -, hb⟩ := hp
        by_cases hw : b.opening.wanted.contains name = true
        · have hmay : MayFollow b.head.name name := hb.waits name (List.contains_iff_mem.mp hw)
          dsimp only at h₈
          rw [if_pos hw] at h₈
          obtain ⟨hc, ⟨hcont, wanted, hwanted, rfl⟩ | ⟨hend, rfl⟩⟩ :=
            result_of_continueBlock hmay h₈
          · have hwaits (next : String) (hnext : next ∈ wanted) : MayFollow b.head.name next := by
              rcases hwanted next hnext with h | h
              · exact hb.waits next h
              · exact .inl h
            exact ⟨hc, fun closing => .section _ _ _ b outer rfl (shows closing) hcont hwaits⟩
          · exact ⟨hc, fun closing => .close _ b outer rfl ⟨_, hend, shows closing⟩⟩
        · dsimp only at h₈
          rw [if_neg hw] at h₈
          exact begun h₈
    | _ => exact absurd h₄ fail_ne_ok

/-- A piece that is accepted takes the reading one step on. -/
theorem step_of_add {p p' : Progress} {ps : List Piece} {piece : Piece} {isLast : Bool}
    {failure : Option Failure} (hp : p.Spans ps) (h : p.add piece isLast failure = .ok p') :
    p.Step piece p' := by
  cases piece with
  | text line s =>
    cases h
    exact .text line s
  | group kind line symbols closing =>
    cases kind with
    | tag =>
      obtain ⟨rest, hr⟩ := run_eq_ok h
      obtain ⟨⟨_, _, _, hedge⟩, hstep⟩ := step_of_tagGroup hp hr
      obtain ⟨n, rfl⟩ := closing_of_groupEdge hedge
      exact hstep n
    | output =>
      obtain ⟨rest, hr⟩ := run_eq_ok h
      obtain ⟨⟨_, _, _, hedge⟩, rfl⟩ := result_of_outputGroup hr
      obtain ⟨n, rfl⟩ := closing_of_groupEdge hedge
      exact .output line symbols n

/-- Reading keeps what has been read in accord with the pieces, to the last of them. -/
theorem spans_of_addAll {p p' : Progress} {failure : Option Failure} {done pieces : List Piece}
    (hp : p.Spans done) (h : p.addAll failure pieces = .ok p') : p'.Spans (done ++ pieces) := by
  induction pieces generalizing p done with
  | nil =>
    cases h
    rw [List.append_nil]
    exact hp
  | cons piece rest ih =>
    rw [Progress.addAll] at h
    cases hadd : p.add piece rest.isEmpty failure with
    | error e =>
      rw [hadd] at h
      cases h
    | ok next =>
      rw [hadd] at h
      have hall := ih ((step_of_add hp hadd).spans hp) h
      rwa [List.append_assoc] at hall

/-- The parts of an accepted template stand for all its pieces. -/
theorem itemsSpan_of_outline {source : Cut} {items : List Item} (h : outline source = .ok items) :
    ItemsSpan items source.pieces := by
  unfold outline at h
  cases hall : (Progress.mk [] []).addAll source.failure source.pieces with
  | error e =>
    rw [hall] at h
    cases h
  | ok p =>
    rw [hall] at h
    have hstart : (Progress.mk [] []).Spans [] := rfl
    have hp : p.Spans ([] ++ source.pieces) := spans_of_addAll hstart hall
    obtain ⟨level, blocks⟩ := p
    cases hf : source.failure with
    | some failure =>
      rw [hf] at h
      cases h
    | none =>
      rw [hf] at h
      cases blocks with
      | nil =>
        cases h
        exact hp
      | cons b outer => cases h

end Stencil.Template
