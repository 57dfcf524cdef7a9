import Stencil.Template.Tag

/-!
Readers only move forward: what a reader leaves is the end of what it found. And where a reader
fails, the template is at fault or its nesting goes too far, unless the source could not be cut
where the symbols end. Both pass through every way of putting readers together, so they are found
for a reader by the shape of its definition, up to the whole grammar of expressions.
-/
namespace Stencil.Template

/-- A fault of the template, or nesting beyond the allowance. -/
def Failure.Expected : Failure → Prop
  | .fault _ | .nestedTooDeeply => True
  | .tooManyDigits | .foreignDigit => False

/-- The failure to cut the source behind the symbols of a group. -/
def Edge.failure? : Edge → Option Failure
  | .closed _ _ beyond => beyond
  | .ended _ => none
  | .failed failure => some failure

namespace Reading

/-- A reader that succeeds leaves the end of the symbols it found, and one that fails does so as
expected, or with the failure behind the symbols. -/
class Forward (r : Reading α) : Prop where
  suffix : ∀ {edge : Edge} {s rest : List Symbol} {a : α}, r edge s = .ok (a, rest) → rest <:+ s
  failure : ∀ {edge : Edge} {s : List Symbol} {f : Failure}, r edge s = .error f →
    f.Expected ∨ edge.failure? = some f

variable {α β : Type} {edge : Edge} {s rest : List Symbol}

/-- Of two readers in a row, the second begins where the first stopped. -/
theorem bind_eq {x : Reading α} {f : α → Reading β} :
    (x >>= f) edge s = match x edge s with
      | .ok (a, middle) => f a edge middle
      | .error e => .error e := by
  change (x edge s >>= fun p => f p.1 edge p.2) = _
  cases x edge s <;> rfl

/-- Two readers in a row succeed exactly if both do. -/
theorem bind_eq_ok {x : Reading α} {f : α → Reading β} {b : β} :
    (x >>= f) edge s = .ok (b, rest) ↔
      ∃ a middle, x edge s = .ok (a, middle) ∧ f a edge middle = .ok (b, rest) := by
  rw [bind_eq]
  cases x edge s <;> simp [and_assoc, Prod.ext_iff]

theorem bind_eq_error {x : Reading α} {f : α → Reading β} {e : Failure} :
    (x >>= f) edge s = .error e ↔
      x edge s = .error e ∨
        ∃ a middle, x edge s = .ok (a, middle) ∧ f a edge middle = .error e := by
  rw [bind_eq]
  cases x edge s <;> simp [and_assoc, Prod.ext_iff]

theorem pure_eq_ok {a b : α} :
    (pure a : Reading α) edge s = .ok (b, rest) ↔ a = b ∧ s = rest := by
  change Except.ok (a, s) = .ok (b, rest) ↔ _
  simp

theorem get_eq_ok {found : List Symbol} :
    (get : Reading (List Symbol)) edge s = .ok (found, rest) ↔ s = found ∧ s = rest := by
  change Except.ok (s, s) = .ok (found, rest) ↔ _
  simp

theorem read_eq_ok {e : Edge} :
    (read : Reading Edge) edge s = .ok (e, rest) ↔ edge = e ∧ s = rest := by
  change Except.ok (edge, s) = .ok (e, rest) ↔ _
  simp

theorem set_eq_ok {new : List Symbol} {u : PUnit} :
    (set new : Reading PUnit) edge s = .ok (u, rest) ↔ new = rest := by
  change Except.ok (PUnit.unit, new) = .ok (u, rest) ↔ _
  simp

theorem throw_ne_ok {e : Failure} {a : α} : (throw e : Reading α) edge s ≠ .ok (a, rest) := by
  intro h
  cases h

instance Forward.pure (a : α) : Forward (pure a : Reading α) where
  suffix h := (pure_eq_ok.mp h).2 ▸ List.suffix_rfl
  failure h := by cases h

theorem forward_bind {x : Reading α} {f : α → Reading β} (hx : Forward x)
    (hf : ∀ a, Forward (f a)) : Forward (x >>= f) where
  suffix h := by
    obtain ⟨a, middle, h₁, h₂⟩ := bind_eq_ok.mp h
    exact ((hf a).suffix h₂).trans (hx.suffix h₁)
  failure h := by
    obtain h₁ | ⟨a, middle, -, h₂⟩ := bind_eq_error.mp h
    · exact hx.failure h₁
    · exact (hf a).failure h₂

instance Forward.bind (x : Reading α) (f : α → Reading β) [hx : Forward x]
    [hf : ∀ a, Forward (f a)] : Forward (x >>= f) := forward_bind hx hf

theorem forward_throw {e : Failure} (h : e.Expected) : Forward (throw e : Reading α) where
  suffix h := absurd h throw_ne_ok
  failure he := by
    cases he
    exact .inl h

instance (f : Fault) : Forward (throw (.fault f) : Reading α) := forward_throw trivial

instance : Forward (throw .nestedTooDeeply : Reading α) := forward_throw trivial

instance Forward.get : Forward (get : Reading (List Symbol)) where
  suffix h := (get_eq_ok.mp h).2 ▸ List.suffix_rfl
  failure h := by cases h

instance Forward.read : Forward (read : Reading Edge) where
  suffix h := (read_eq_ok.mp h).2 ▸ List.suffix_rfl
  failure h := by cases h

instance Forward.ite (c : Prop) [Decidable c] (x y : Reading α) [Forward x] [Forward y] :
    Forward (if c then x else y) := by
  split <;> infer_instance

instance Forward.map (f : α → β) (x : Reading α) [Forward x] : Forward (f <$> x) where
  suffix {edge s rest b} h := by
    have hb : (x >>= fun a => Pure.pure (f a)) edge s = .ok (b, rest) := h
    exact Forward.suffix hb
  failure {edge s e} h := by
    have hb : (x >>= fun a => Pure.pure (f a)) edge s = .error e := h
    exact Forward.failure hb

instance Forward.discard (x : Reading α) [Forward x] : Forward (discard x) :=
  inferInstanceAs (Forward ((fun _ => ()) <$> x))

instance : Forward front := by unfold front; infer_instance

instance : Forward frontWord := by unfold frontWord; infer_instance

instance : Forward line := by unfold line; infer_instance

instance : Forward description := by unfold description; infer_instance

instance (n : Nat) (cause : Cause) : Forward (failAt n cause : Reading α) := by
  unfold failAt; infer_instance

instance (cause : Cause) : Forward (fail cause : Reading α) := by unfold fail; infer_instance

/-- The edge matters when no symbol is left. -/
theorem checkFront_eq :
    checkFront edge s = match s, edge with
      | [], .failed failure => .error failure
      | _, _ => .ok ((), s) := by
  cases s <;> cases edge <;> rfl

instance : Forward checkFront where
  suffix h := by
    rw [checkFront_eq] at h
    split at h <;> cases h
    exact List.suffix_rfl
  failure h := by
    rw [checkFront_eq] at h
    split at h <;> cases h
    exact .inr rfl

/-- The only reader that changes what is left: it drops the symbol in front. -/
theorem advance_eq :
    advance edge s = match s, edge with
      | _ :: rest, edge => checkFront edge rest
      | [], .closed _ _ (some failure) => .error failure
      | [], _ => .ok ((), s) := by
  cases s with
  | cons x s => rfl
  | nil =>
    cases edge with
    | closed kind line beyond => cases beyond <;> rfl
    | ended line => rfl
    | failed f => rfl

instance : Forward advance where
  suffix h := by
    rw [advance_eq] at h
    split at h
    · exact (Forward.suffix h).trans (List.suffix_cons _ _)
    · cases h
    · cases h
      exact List.suffix_rfl
  failure h := by
    rw [advance_eq] at h
    split at h
    · exact Forward.failure h
    · cases h
      exact .inr rfl
    · cases h

theorem second_eq :
    second edge s = match s, edge with
      | [_], .failed failure => .error failure
      | _ :: next :: _, _ => .ok (some next.word, s)
      | _, _ => .ok (none, s) := by
  match s with
  | [] => rfl
  | [_] => cases edge <;> rfl
  | _ :: _ :: _ => cases edge <;> rfl

instance : Forward second where
  suffix h := by
    rw [second_eq] at h
    split at h <;> cases h <;> exact List.suffix_rfl
  failure h := by
    rw [second_eq] at h
    split at h <;> cases h
    exact .inr rfl

instance (op : Operator) : Forward (atOperator op) := by unfold atOperator; infer_instance

instance (name : String) : Forward (atName name) := by unfold atName; infer_instance

instance (op : Operator) : Forward (skipOperator op) := by unfold skipOperator; infer_instance

instance (name : String) : Forward (skipName name) := by unfold skipName; infer_instance

instance (wanted : String) : Forward (failExpecting wanted : Reading α) := by
  unfold failExpecting
  refine forward_bind inferInstance fun s => forward_bind inferInstance fun e => ?_
  split <;> infer_instance

instance (op : Operator) : Forward (expectOperator op) := by unfold expectOperator; infer_instance

instance (name : String) : Forward (expectName name) := by unfold expectName; infer_instance

instance : Forward anyName := by
  unfold anyName
  refine forward_bind inferInstance fun symbol => ?_
  split <;> infer_instance

instance (kind : Delimiter) : Forward (expectEnd kind) := by
  unfold expectEnd
  refine forward_bind inferInstance fun s => forward_bind inferInstance fun e => ?_
  split <;> infer_instance

instance : Forward atEnd := by
  unfold atEnd
  refine forward_bind inferInstance fun s => forward_bind inferInstance fun e => ?_
  split <;> infer_instance

/-- A loop moves forward if each of its steps does. -/
theorem forward_iterate {step : α → Reading (Option α)} (hs : ∀ a, Forward (step a)) (n : Nat)
    (a : α) : Forward (iterate step n a) := by
  induction n generalizing a with
  | zero => unfold Reading.iterate; infer_instance
  | succ n ih =>
    unfold Reading.iterate
    refine forward_bind inferInstance fun next => ?_
    split
    · exact ih _
    · infer_instance

theorem forward_repeating {step : α → Reading (Option α)} (hs : ∀ a, Forward (step a)) (a : α) :
    Forward (repeating a step) := by
  unfold Reading.repeating
  exact forward_bind inferInstance fun s => forward_iterate hs _ a

instance Forward.repeating (a : α) (step : α → Reading (Option α)) [hs : ∀ a, Forward (step a)] :
    Forward (repeating a step) := forward_repeating hs a

end Reading

open Reading

section Expressions

variable (inner : Inner) [∀ c, Forward (inner c)]

instance (first trailing : Bool) (closer : Operator) :
    Forward (betweenItems first trailing closer) := by
  unfold betweenItems; infer_instance

instance (closer : Operator) (trailing : Bool) (item : Reading Unit) [Forward item] :
    Forward (itemsUntil closer trailing item) := by
  unfold itemsUntil; infer_instance

instance : Forward (listLiteral inner) := by unfold listLiteral; infer_instance

instance : Forward (dictLiteral inner) := by unfold dictLiteral; infer_instance

instance : Forward atTupleEnd := by unfold atTupleEnd; infer_instance

instance (item : Reading Operand) [Forward item] (parenthesized : Bool) :
    Forward (tuple item parenthesized) := by
  unfold tuple
  refine forward_bind inferInstance fun start => forward_bind inferInstance fun final => ?_
  split
  · infer_instance
  · split <;> infer_instance

instance (n : Nat) : Forward (stringLiterals n) := by
  unfold stringLiterals
  refine forward_bind (forward_repeating (fun _ => ?_) _) fun _ => inferInstance
  refine forward_bind inferInstance fun word => ?_
  split <;> infer_instance

instance (attributes : Bool) (name : String) (n : Nat) :
    Forward (nameOperand attributes name n) := by
  unfold nameOperand; infer_instance

instance (attributes : Bool) : Forward (primary inner attributes) := by
  unfold primary
  refine forward_bind inferInstance fun start => forward_bind inferInstance fun word => ?_
  split <;> infer_instance

instance : Forward atSliceEnd := by unfold atSliceEnd; infer_instance

instance : Forward (subscript inner) := by
  unfold subscript
  have third : Forward (do
      if ← skipOperator .colon then
        if !(← atSliceEnd) then discard (inner true) : Reading Unit) := inferInstance
  have parts : Forward (do
      if !(← atOperator .colon) then
        if !(← atSliceEnd) then discard (inner true)
      if ← skipOperator .colon then
        if !(← atSliceEnd) then discard (inner true) : Reading Unit) := by
    dsimp only
    infer_instance
  refine forward_bind inferInstance fun colon => ?_
  dsimp only at parts ⊢
  split <;> infer_instance

instance : Forward (access inner) := by
  unfold access
  refine forward_bind inferInstance fun start => forward_bind inferInstance fun dot => ?_
  split
  · refine forward_bind inferInstance fun key => forward_bind inferInstance fun keyLine =>
      forward_bind inferInstance fun _ => ?_
    split <;> infer_instance
  · infer_instance

instance (start : Nat) (so : Arguments) : Forward (argument inner start so) := by
  unfold argument
  dsimp only
  refine forward_bind inferInstance fun star => ?_
  split
  · infer_instance
  refine forward_bind inferInstance fun doubleStar => ?_
  split
  · infer_instance
  refine forward_bind inferInstance fun word => ?_
  split
  · refine forward_bind inferInstance fun next => forward_bind inferInstance fun named => ?_
    split <;> infer_instance
  · infer_instance

instance : Forward (arguments inner) := by
  unfold arguments
  refine forward_bind inferInstance fun start => forward_bind inferInstance fun _ =>
    forward_bind (forward_repeating (fun so => forward_bind inferInstance fun close => ?_) _)
      fun _ => inferInstance
  dsimp only
  split
  · infer_instance
  · split <;> infer_instance

instance : Forward (call inner) := by unfold call; infer_instance

instance (operand : Operand) : Forward (postfixes inner operand) := by
  refine forward_repeating (fun _ => forward_bind inferInstance fun word => ?_) operand
  split <;> infer_instance

instance : Forward dottedRest := by unfold dottedRest; infer_instance

instance : Forward (oneFilter inner) := by unfold oneFilter; infer_instance

instance (operand : Operand) : Forward (filters inner operand) := by
  unfold filters; infer_instance

instance : Forward (test inner) := by
  unfold test
  refine forward_bind inferInstance fun start => forward_bind inferInstance fun _ =>
    forward_bind inferInstance fun negated => forward_bind inferInstance fun _ =>
    forward_bind inferInstance fun _ => forward_bind inferInstance fun paren => ?_
  dsimp only
  split
  · infer_instance
  · refine forward_bind inferInstance fun word => ?_
    split <;> infer_instance

instance (operand : Operand) : Forward (refinements inner operand) := by
  refine forward_repeating (fun _ => forward_bind inferInstance fun word => ?_) operand
  split <;> infer_instance

instance : Forward frontSign := by
  unfold frontSign
  refine forward_bind inferInstance fun word => ?_
  split <;> infer_instance

instance : Forward (unary inner) := by
  unfold unary
  refine forward_bind inferInstance fun start => forward_bind inferInstance fun outermost =>
    forward_bind (forward_repeating (fun _ => forward_bind inferInstance fun sign => ?_) _)
      fun _ => inferInstance
  split <;> infer_instance

instance (operand : Reading Operand) (operator : Reading (Option Form)) [Forward operand]
    [Forward operator] : Forward (leftChain operand operator) := by
  unfold leftChain
  refine forward_bind inferInstance fun start => forward_bind inferInstance fun first =>
    forward_bind (forward_repeating (fun _ => forward_bind inferInstance fun form => ?_) _)
      fun _ => inferInstance
  split <;> infer_instance

instance (ops : List Operator) : Forward (binaryOperator ops) := by
  unfold binaryOperator
  refine forward_bind inferInstance fun word => ?_
  split <;> infer_instance

instance (name : String) (form : Form) : Forward (namedOperator name form) := by
  unfold namedOperator; infer_instance

instance : Forward (power inner) := by unfold power; infer_instance

instance : Forward (product inner) := by unfold product; infer_instance

instance : Forward (concatenation inner) := by unfold concatenation; infer_instance

instance : Forward (sum inner) := by unfold sum; infer_instance

instance : Forward comparison := by
  unfold comparison
  refine forward_bind inferInstance fun word => ?_
  split <;> infer_instance

instance : Forward (compare inner) := by unfold compare; infer_instance

instance : Forward (negation inner) := by unfold negation; infer_instance

instance : Forward (conjunction inner) := by unfold conjunction; infer_instance

instance : Forward (disjunction inner) := by unfold disjunction; infer_instance

instance : Forward (conditional inner) := by
  unfold conditional
  refine forward_bind inferInstance fun start => forward_bind inferInstance fun first =>
    forward_bind (forward_repeating (fun _ => forward_bind inferInstance fun more => ?_) _)
      fun _ => inferInstance
  dsimp only
  split <;> infer_instance

end Expressions

/-- The knot of the grammar: each level of nesting moves forward if the next one does. -/
instance (depth : Nat) (conditions : Bool) : Forward (expressionWithin depth conditions) := by
  induction depth generalizing conditions with
  | zero => unfold expressionWithin; infer_instance
  | succ depth ih => unfold expressionWithin; infer_instance

instance (conditions : Bool) : Forward (expression conditions) := by
  unfold expression; infer_instance

instance (conditions : Bool) : Forward (expressionList conditions) := by
  unfold expressionList; infer_instance

instance (attributes : Bool) : Forward (target attributes) := by unfold target; infer_instance

end Stencil.Template
