import Stencil.Proofs.Yaml.Scan
import Stencil.Yaml.Document

/-!
Where a document fails without being told of. One that can be read as values fails in such a way
only at a text that is no value of the kind that it is marked as.
-/
namespace Stencil.Yaml

open Options Text

def Unsuited (kind : Kind) (s : List Char) (f : Failure) : Prop :=
  match kind with
  | .truth => truthOf s = .error f
  | .integer => integerOf s = .error f
  | .number => numberOf s = .error f
  | .time => timeOf s = .error f
  | _ => False

namespace Meaning

theorem both_eq_error {a : Meaning α} {b : Meaning β} {r : Refusal} (h : a.both b = .error r) :
    a = .error r ∨ b = .error r := by
  rw [both.eq_def] at h
  split at h
  · cases h
  · cases h
    exact .inl rfl
  · cases h
    exact .inr rfl
  · split at h <;> cases h
    · exact .inr rfl
    · exact .inl rfl

theorem all_eq_error {xs : List (Meaning α)} {r : Refusal} (h : all xs = .error r) :
    .error r ∈ xs := by
  induction xs with
  | nil => cases h
  | cons x rest ih =>
    rw [all] at h
    rcases both_eq_error (map_error.mp h) with hx | hrest
    · exact hx ▸ List.mem_cons_self
    · exact List.mem_cons_of_mem _ (ih hrest)

theorem inside_eq_error {a : Meaning α} {r : Refusal} (h : a.inside = .error r) :
    ∃ r', a = .error r' ∧ r'.failure = r.failure := by
  cases a with
  | ok x => cases h
  | error e =>
    cases h
    exact ⟨e, rfl, rfl⟩

theorem ofScalar_eq_error {a : Except Failure α} {r : Refusal} (h : ofScalar a = .error r) :
    a = .error r.failure := by
  obtain ⟨f, ha, rfl⟩ := mapError_error.mp h
  exact ha

end Meaning

open Meaning

/-- A failure at a scalar is that of its text, or one that is told of. -/
theorem failure_scalarMeaning {kind : Kind} {s : List Char} {r : Refusal}
    (h : scalarMeaning kind s = .error r) : r.failure.IsTold ∨ Unsuited kind s r.failure := by
  cases kind with
  | null | text => cases h
  | truth => exact .inr (ofScalar_eq_error (map_error.mp h))
  | integer => exact .inr (ofScalar_eq_error (map_error.mp h))
  | number => exact .inr (ofScalar_eq_error (map_error.mp h))
  | time => exact .inr (ofScalar_eq_error h)
  | bytes =>
    left
    simp only [scalarMeaning] at h
    split at h
    · split at h <;> cases h
      trivial
    · cases h
      trivial
  | list | map | set | orderedMap | pairs | merge | standIn | foreign =>
    cases h
    exact .inl trivial

namespace Node

mutual

def HasUnsuited (f : Failure) : Node → Prop
  | .scalar kind s => Unsuited kind s f
  | .sequence _ items => ItemsUnsuited f items
  | .mapping kind es =>
    EntriesUnsuited f es ∨ ∃ s, scalarText?.entryText? es = some s ∧ Unsuited kind s f
  | .around _ => False

def ItemsUnsuited (f : Failure) : List Node → Prop
  | [] => False
  | n :: rest => HasUnsuited f n ∨ ItemsUnsuited f rest

def EntriesUnsuited (f : Failure) : List (Node × Node) → Prop
  | [] => False
  | (k, v) :: rest => HasUnsuited f k ∨ HasUnsuited f v ∨ EntriesUnsuited f rest

end

end Node

/-- A meaning fails as told, or with a failure that there is a reason for. -/
def Meaning.FailsFor (reason : Failure → Prop) (m : Meaning α) : Prop :=
  ∀ r, m = .error r → r.failure.IsTold ∨ reason r.failure

namespace Meaning

variable {reason other : Failure → Prop}

theorem failsFor_ok (a : α) : FailsFor reason (.ok a : Meaning α) := fun r h => by cases h

theorem failsFor_fail {f : Failure} (h : f.IsTold) : FailsFor reason (fail f : Meaning α) := by
  intro r hr
  cases hr
  exact .inl h

theorem FailsFor.mono {m : Meaning α} (h : FailsFor reason m) (hr : ∀ f, reason f → other f) :
    FailsFor other m := fun r hm => (h r hm).imp_right (hr r.failure)

theorem FailsFor.both {a : Meaning α} {b : Meaning β} (ha : FailsFor reason a)
    (hb : FailsFor reason b) : FailsFor reason (a.both b) := fun r h =>
  (both_eq_error h).elim (ha r) (hb r)

theorem FailsFor.map {a : Meaning α} (h : FailsFor reason a) (g : α → β) :
    FailsFor reason (a.map g) := fun r hr => h r (map_error.mp hr)

theorem FailsFor.all {ms : List (Meaning α)} (h : ∀ m ∈ ms, FailsFor reason m) :
    FailsFor reason (all ms) := fun r hr => h _ (all_eq_error hr) r rfl

theorem FailsFor.inside {a : Meaning α} (h : FailsFor reason a) : FailsFor reason a.inside := by
  intro r hr
  obtain ⟨r', ha, hf⟩ := inside_eq_error hr
  exact hf ▸ h r' ha

end Meaning

namespace Node

variable {reason other : Failure → Prop}

/-- Keys and values fail as told, or for a reason. -/
def EntriesFailFor (reason : Failure → Prop) (es : List Entry) : Prop :=
  ∀ e ∈ es, e.1.FailsFor reason ∧ e.2.FailsFor reason

theorem entriesFailFor_nil : EntriesFailFor reason [] := fun _ h => by cases h

theorem EntriesFailFor.mono {es : List Entry} (h : EntriesFailFor reason es)
    (hr : ∀ f, reason f → other f) : EntriesFailFor other es := fun e he =>
  ⟨(h e he).1.mono hr, (h e he).2.mono hr⟩

theorem EntriesFailFor.append {es es' : List Entry} (h : EntriesFailFor reason es)
    (h' : EntriesFailFor reason es') : EntriesFailFor reason (es ++ es') := fun e he =>
  (List.mem_append.mp he).elim (h e) (h' e)

theorem EntriesFailFor.cons {e : Entry} {es : List Entry} (hk : e.1.FailsFor reason)
    (hv : e.2.FailsFor reason) (h : EntriesFailFor reason es) : EntriesFailFor reason (e :: es) :=
  List.forall_mem_cons.mpr ⟨⟨hk, hv⟩, h⟩

theorem failsFor_refused (kind : Kind) : (refused kind).FailsFor reason := by
  have hfail : (fail .malformed : Meaning Value).FailsFor reason := failsFor_fail trivial
  rw [refused]
  split
  · exact hfail.inside
  · exact hfail

/-- What is found is as wanted, or the failure to find it is told of. -/
def FindsOrTells (wanted : α → Prop) : Except Failure α → Prop
  | .error f => f.IsTold
  | .ok a => wanted a

theorem FindsOrTells.bind {wanted : α → Prop} {wanted' : β → Prop} {x : Except Failure α}
    {g : α → Except Failure β} (h : FindsOrTells wanted x)
    (hg : ∀ a, wanted a → FindsOrTells wanted' (g a)) : FindsOrTells wanted' (x >>= g) := by
  cases x with
  | error f => exact h
  | ok a => exact hg a h

theorem FindsOrTells.mono {wanted wanted' : α → Prop} {x : Except Failure α}
    (h : FindsOrTells wanted x) (hw : ∀ a, wanted a → wanted' a) : FindsOrTells wanted' x := by
  cases x with
  | error f => exact h
  | ok a => exact hw a h

/-- The entries that are merged into a mapping and its own ones. -/
def BothFailFor (reason : Failure → Prop) (found : List Entry × List Entry) : Prop :=
  EntriesFailFor reason found.1 ∧ EntriesFailFor reason found.2

theorem failsFor_mappingOf {found : Except Failure (List Entry × List Entry)}
    (h : FindsOrTells (BothFailFor reason) found) : (mappingOf found).FailsFor reason := by
  match found with
  | .error f => exact failsFor_fail h
  | .ok (merged, own) =>
    refine (FailsFor.all fun m hm => ?_).map _
    obtain ⟨e, he, rfl⟩ := List.mem_map.mp hm
    obtain ⟨hkey, hvalue⟩ := (h.1.append h.2) e he
    exact hkey.both hvalue

theorem failsFor_scalar (kind : Kind) (s : List Char) :
    (scalarMeaning kind s).FailsFor (Unsuited kind s) := fun _ h => failure_scalarMeaning h

/-- The meaning of a mapping that stands for a scalar. -/
theorem failsFor_standIn (kind : Kind) (es : List (Node × Node)) :
    (match scalarText?.entryText? es with
      | some s => if kind.isCollection then refused kind else scalarMeaning kind s
      | none => refused kind).FailsFor fun f => HasUnsuited f (.mapping kind es) := by
  split
  · rename_i s hs
    split
    · exact failsFor_refused kind
    · exact (failsFor_scalar kind s).mono fun f h => .inr ⟨s, hs, h⟩
  · exact failsFor_refused kind

/-- The key of an entry that is none to merge. -/
theorem failsFor_key (k : Node) : k.meaning.FailsFor reason →
    (match k with
      | .scalar .standIn s => .ok (.text (String.ofList s))
      | k => if k.kind.isCollection then fail .malformed else meaning k : Meaning Value).FailsFor
        reason := by
  intro hk
  split
  · exact failsFor_ok _
  · split
    · exact failsFor_fail trivial
    · exact hk

mutual

/-- A value fails as told, or at a text in it that is no value of its kind. -/
theorem failsFor_meaning : ∀ n : Node, n.meaning.FailsFor fun f => HasUnsuited f n
  | .scalar kind s => failsFor_scalar kind s
  | .around isMapping => failsFor_ok _
  | .sequence kind items => by
    cases kind with
    | list => exact ((FailsFor.all (failsFor_meanings items)).map _).inside
    | orderedMap | pairs => exact ((FailsFor.all (failsFor_pairs items)).map _).inside
    | _ => exact failsFor_refused _
  | .mapping kind es => by
    have hmapping := failsFor_mappingOf (failsFor_entries es)
    cases kind with
    | map => exact hmapping.inside.mono fun _ => .inl
    | set => exact (hmapping.map _).inside.mono fun _ => .inl
    | _ => exact failsFor_standIn _ es

theorem failsFor_meanings : ∀ (items : List Node), ∀ m ∈ meanings items,
    m.FailsFor fun f => ItemsUnsuited f items
  | [] => fun _ hm => by cases hm
  | n :: rest => List.forall_mem_cons.mpr
    ⟨(failsFor_meaning n).mono fun _ => .inl,
      fun m hm => (failsFor_meanings rest m hm).mono fun _ => .inr⟩

theorem failsFor_pairs : ∀ (items : List Node), ∀ m ∈ pairs items,
    m.FailsFor fun f => ItemsUnsuited f items
  | [] => fun _ hm => by cases hm
  | n :: rest => by
    have hrest : ∀ m ∈ pairs rest, m.FailsFor fun f => ItemsUnsuited f (n :: rest) := fun m hm =>
      (failsFor_pairs rest m hm).mono fun _ => .inr
    match n with
    | .mapping kind [(k, v)] =>
      have hk := (failsFor_meaning k).mono fun f h =>
        (.inl (.inl (.inl h)) : ItemsUnsuited f (.mapping kind [(k, v)] :: rest))
      have hv := (failsFor_meaning v).mono fun f h =>
        (.inl (.inl (.inr (.inl h))) : ItemsUnsuited f (.mapping kind [(k, v)] :: rest))
      exact List.forall_mem_cons.mpr ⟨(hk.both hv).map _, hrest⟩
    | .mapping kind [] | .mapping kind (_ :: _ :: _) | .scalar kind s | .sequence kind items
    | .around isMapping => exact List.forall_mem_cons.mpr ⟨failsFor_fail trivial, hrest⟩

theorem failsFor_entries : ∀ es : List (Node × Node),
    FindsOrTells (BothFailFor fun f => EntriesUnsuited f es) (entries es)
  | [] => ⟨entriesFailFor_nil, entriesFailFor_nil⟩
  | (k, v) :: rest => by
    have hkey := failsFor_key k ((failsFor_meaning k).mono fun f h =>
      (.inl h : EntriesUnsuited f ((k, v) :: rest)))
    have hvalue := (failsFor_meaning v).mono fun f h =>
      (.inr (.inl h) : EntriesUnsuited f ((k, v) :: rest))
    have hhere := failsFor_merged v
    have hrest := failsFor_entries rest
    rw [entries.eq_def]
    dsimp only
    split
    · exact hhere.bind fun _ hh => hrest.bind fun _ hr =>
        ⟨(hh.mono fun _ h => .inr (.inl h)).append (hr.1.mono fun _ h => .inr (.inr h)),
          hr.2.mono fun _ h => .inr (.inr h)⟩
    · exact hrest.bind fun _ hr =>
        ⟨hr.1.mono fun _ h => .inr (.inr h),
          .cons hkey hvalue (hr.2.mono fun _ h => .inr (.inr h))⟩

theorem failsFor_merged : ∀ n : Node,
    FindsOrTells (EntriesFailFor fun f => HasUnsuited f n) (merged n)
  | .mapping _ es =>
    (failsFor_entries es).bind fun _ h => (h.1.append h.2).mono fun _ => .inl
  | .sequence _ items => failsFor_mergedAll items
  | .around true => entriesFailFor_nil
  | .around false | .scalar .. => trivial

theorem failsFor_mergedAll : ∀ items : List Node,
    FindsOrTells (EntriesFailFor fun f => ItemsUnsuited f items) (mergedAll items)
  | [] => entriesFailFor_nil
  | .mapping _ es :: rest =>
    (failsFor_entries es).bind fun _ h =>
      (failsFor_mergedAll rest).bind fun _ hl =>
        ((hl.mono fun _ => .inr).append (h.1.mono fun _ h => .inl (.inl h))).append
          (h.2.mono fun _ h => .inl (.inl h))
  | .around true :: rest =>
    (failsFor_mergedAll rest).mono fun _ h => h.mono fun _ => .inr
  | .around false :: _ | .scalar .. :: _ | .sequence .. :: _ => trivial

end

end Node

/-- The text of a document, with line breaks of one kind and without a mark at its beginning. -/
def cleaned (text : List Char) : List Char :=
  let text := unifyBreaks text
  if text.head? == some byteOrderMark then text.drop 1 else text

/-- An escape in a document is too large, or a text in it is no value of its kind. -/
def HasUnsuited (text : List Char) (f : Failure) : Prop :=
  (f = .tooLarge ∧ tokensOf (cleaned text) = .error .tooLarge) ∨
    ∃ n, Node.read (cleaned text) = .ok (some n) ∧ n.HasUnsuited f

/-- A document fails as told, or at an escape or a text in it. -/
theorem failure_read {text : List Char} {f : Failure} (h : read text = .error f) :
    f.IsTold ∨ HasUnsuited text f := by
  rw [read] at h
  dsimp only at h
  split at h
  · cases h
    exact .inl trivial
  · replace h : (Node.read (cleaned text) >>= _) = .error f := h
    cases hn : Node.read (cleaned text) with
    | error e =>
      rw [hn] at h
      cases h
      exact (failure_nodeRead hn).imp_right .inl
    | ok node =>
      rw [hn] at h
      cases node with
      | none => cases h
      | some n =>
        obtain ⟨r, hr, rfl⟩ := mapError_error.mp h
        exact (n.failsFor_meaning r hr).imp_right fun hu => .inr ⟨n, hn, hu⟩

end Stencil.Yaml
