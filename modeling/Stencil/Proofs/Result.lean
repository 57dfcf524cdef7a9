/-!
Results of computations that may fail: what a result says of those that it was made from.
-/
namespace Stencil

theorem bind_ok {α β : Type v} {x : Except ε α} {g : α → Except ε β} {b : β} :
    x >>= g = .ok b ↔ ∃ a, x = .ok a ∧ g a = .ok b := by
  cases x with
  | error e => simp [bind, Except.bind]
  | ok a => simp [bind, Except.bind]

theorem map_ok {x : Except ε α} {g : α → β} {b : β} :
    x.map g = .ok b ↔ ∃ a, x = .ok a ∧ g a = b := by
  cases x with
  | error e => simp [Except.map]
  | ok a => simp [Except.map]

theorem map_error {x : Except ε α} {g : α → β} {e : ε} :
    x.map g = .error e ↔ x = .error e := by
  cases x with
  | error e' => simp [Except.map]
  | ok a => simp [Except.map]

theorem mapError_mk_ok (g : ε → δ) (a : α) : (.ok a : Except ε α).mapError g = .ok a := rfl

theorem mapError_mk_error (g : ε → δ) (e : ε) :
    (.error e : Except ε α).mapError g = .error (g e) := rfl

theorem mapError_ok {x : Except ε α} {g : ε → δ} {a : α} :
    x.mapError g = .ok a ↔ x = .ok a := by
  cases x with
  | error e => simp [mapError_mk_error]
  | ok b => simp [mapError_mk_ok]

theorem mapError_error {x : Except ε α} {g : ε → δ} {e : δ} :
    x.mapError g = .error e ↔ ∃ e', x = .error e' ∧ g e' = e := by
  cases x with
  | error e' => simp [mapError_mk_error]
  | ok b => simp [mapError_mk_ok]

theorem mapM_ok {g : α → Except ε β} {xs : List α} {ys : List β} :
    xs.mapM g = .ok ys ↔ xs.map g = ys.map .ok := by
  induction xs generalizing ys with
  | nil => cases ys <;> simp [pure, Except.pure]
  | cons x rest ih =>
    rw [List.mapM_cons]
    cases ys with
    | nil => simp [bind_ok, pure, Except.pure]
    | cons y ys => simp [bind_ok, pure, Except.pure, ih]

end Stencil
