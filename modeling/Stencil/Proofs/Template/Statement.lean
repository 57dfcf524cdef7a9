import Stencil.Proofs.Template.Forward

/-!
What the statements of a template open and what they wait for. A statement is complete or opens a
block, and its name tells which; only an assignment can be either, and then a complete one has a
sign of assignment.
-/
namespace Stencil.Template

open Reading

def leafNames : List String :=
  ["extends", "print", "include", "from", "import", "set", "do", "break", "continue"]

def openingNames : List String :=
  ["for", "if", "block", "macro", "set", "with", "autoescape", "call", "filter"]

def Assigns (symbols : List Symbol) : Prop := ∃ x ∈ symbols, x.word = .operator .assign

/-- A statement of this name begins a further section of a block. -/
def Continues (block name : String) : Prop :=
  (name = "elif" ∧ block = "if") ∨ (name = "else" ∧ (block = "if" ∨ block = "for"))

/-- A block may wait for a statement of this name. -/
def MayFollow (block name : String) : Prop := name = "end" ++ block ∨ Continues block name

variable {edge : Edge} {s rest : List Symbol}

theorem map_eq_ok {f : α → β} {x : Reading α} {b : β} :
    (f <$> x) edge s = .ok (b, rest) ↔ ∃ a, f a = b ∧ x edge s = .ok (a, rest) := by
  change (x >>= fun a => pure (f a)) edge s = _ ↔ _
  rw [bind_eq_ok]
  constructor
  · rintro ⟨a, middle, hx, ha⟩
    obtain ⟨rfl, rfl⟩ := pure_eq_ok.mp ha
    exact ⟨a, rfl, hx⟩
  · rintro ⟨a, rfl, hx⟩
    exact ⟨a, rest, hx, pure_eq_ok.mpr ⟨rfl, rfl⟩⟩

theorem frontWord_eq_ok {word : Option Word} :
    frontWord edge s = .ok (word, rest) ↔ s.head?.map Symbol.word = word ∧ s = rest := by
  change Except.ok (s.head?.map Symbol.word, s) = .ok (word, rest) ↔ _
  simp

theorem atOperator_eq_true {op : Operator} (h : atOperator op edge s = .ok (true, rest)) :
    ∃ x ∈ s, x.word = .operator op := by
  obtain ⟨word, middle, h₁, h₂⟩ := bind_eq_ok.mp h
  obtain ⟨rfl, rfl⟩ := frontWord_eq_ok.mp h₁
  have hw := (pure_eq_ok.mp h₂).1
  cases s with
  | nil => simp at hw
  | cons x s =>
    refine ⟨x, List.mem_cons_self, ?_⟩
    simpa using hw

theorem skipOperator_eq_true {op : Operator} (h : skipOperator op edge s = .ok (true, rest)) :
    ∃ x ∈ s, x.word = .operator op := by
  obtain ⟨found, middle, h₁, h₂⟩ := bind_eq_ok.mp h
  cases found with
  | true => exact atOperator_eq_true h₁
  | false => cases (pure_eq_ok.mp h₂).1

/-- An assignment without a body has its sign behind its target. -/
theorem assigns_of_setHead (h : setHead edge s = .ok (none, rest)) : Assigns s := by
  obtain ⟨operand, s₁, h₁, h₂⟩ := bind_eq_ok.mp h
  obtain ⟨sign, s₂, h₃, h₄⟩ := bind_eq_ok.mp h₂
  cases sign with
  | true =>
    obtain ⟨x, hx, hw⟩ := skipOperator_eq_true h₃
    exact ⟨x, (Forward.suffix h₁).mem hx, hw⟩
  | false =>
    obtain ⟨_, s₃, _, h₆⟩ := bind_eq_ok.mp h₄
    cases (pure_eq_ok.mp h₆).1

theorem wanted_of_setHead {o : Opening} (h : setHead edge s = .ok (some o, rest)) :
    o.wanted = ["endset"] := by
  obtain ⟨operand, s₁, _, h₂⟩ := bind_eq_ok.mp h
  obtain ⟨sign, s₂, _, h₄⟩ := bind_eq_ok.mp h₂
  cases sign with
  | true =>
    obtain ⟨_, s₃, _, h₆⟩ := bind_eq_ok.mp h₄
    cases (pure_eq_ok.mp h₆).1
  | false =>
    obtain ⟨_, s₃, _, h₆⟩ := bind_eq_ok.mp h₄
    obtain ⟨ho, -⟩ := pure_eq_ok.mp h₆
    cases ho
    rfl

theorem wanted_of_blockHead {o : Opening} (h : blockHead edge s = .ok (o, rest)) :
    o.wanted = ["endblock"] := by
  obtain ⟨⟨name, line⟩, s₁, _, h₂⟩ := bind_eq_ok.mp h
  obtain ⟨_, s₂, _, h₄⟩ := bind_eq_ok.mp h₂
  obtain ⟨required, s₃, _, h₆⟩ := bind_eq_ok.mp h₄
  obtain ⟨hyphen, s₄, _, h₈⟩ := bind_eq_ok.mp h₆
  cases hyphen with
  | true =>
    obtain ⟨_, s₅, h₉, _⟩ := bind_eq_ok.mp h₈
    obtain ⟨n, s₆, _, h₁₀⟩ := bind_eq_ok.mp h₉
    exact absurd h₁₀ throw_ne_ok
  | false =>
    obtain ⟨rfl, -⟩ := pure_eq_ok.mp h₈
    rfl

/-- A reader followed by a fixed answer gives that answer. -/
theorem eq_of_return {x : Reading α} {a b : β}
    (h : (do let _ ← x; return a : Reading β) edge s = .ok (b, rest)) : a = b := by
  obtain ⟨_, _, _, h₂⟩ := bind_eq_ok.mp h
  exact (pure_eq_ok.mp h₂).1

/-- A statement that is complete has one of the names for that. -/
theorem leaf_of_statement {name : String} {line : Nat} {head : Reading (Option Opening)}
    (hs : statement name line = some head) (h : head edge s = .ok (none, rest)) :
    name ∈ leafNames ∧ (name = "set" → Assigns s) := by
  unfold statement at hs
  dsimp only at hs
  split at hs
  case h_10 =>
    cases hs
    exact ⟨by decide, fun _ => assigns_of_setHead h⟩
  case h_3 =>
    cases hs
    obtain ⟨o, ho, -⟩ := map_eq_ok.mp h
    cases ho
  case h_18 => cases hs
  all_goals cases hs
  all_goals cases eq_of_return h
  all_goals exact ⟨by decide, fun hn => absurd hn (by decide)⟩

/-- A statement that opens a block has one of the names for that and waits for what may follow. -/
theorem opening_of_statement {name : String} {line : Nat} {head : Reading (Option Opening)}
    {o : Opening} (hs : statement name line = some head) (h : head edge s = .ok (some o, rest)) :
    name ∈ openingNames ∧ ∀ next ∈ o.wanted, MayFollow name next := by
  unfold statement at hs
  dsimp only at hs
  split at hs
  case h_10 =>
    cases hs
    rw [wanted_of_setHead h]
    exact ⟨by decide, by simp [MayFollow, Continues]⟩
  case h_3 =>
    cases hs
    obtain ⟨o', ho, h'⟩ := map_eq_ok.mp h
    cases ho
    rw [wanted_of_blockHead h']
    exact ⟨by decide, by simp [MayFollow, Continues]⟩
  case h_18 => cases hs
  all_goals cases hs
  all_goals cases eq_of_return h
  all_goals exact ⟨by decide, by simp [MayFollow, Continues]⟩

end Stencil.Template
