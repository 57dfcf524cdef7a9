import Stencil.Proofs.Result
import Stencil.Yaml.Node

/-!
What can fail before the scalars of a document get a meaning. Most that is wrong is told of; only an
escape beyond all characters is not. Both hold of readers put together if they hold of their parts.
-/
namespace Stencil.Yaml

/-- The failure is told of as one of the document. -/
def Failure.IsTold : Failure → Prop
  | .malformed | .unreadable => True
  | .noDigits | .noTruthValue | .noTime | .tooLarge => False

/-! ### Cutting a document into tokens -/

/-- A computation that fails as told, or since an escape is too large. -/
class Scans (x : Except Failure α) : Prop where
  failure : ∀ {f : Failure}, x = .error f → f.IsTold ∨ f = .tooLarge

namespace Scans

instance (a : α) : Scans (.ok a : Except Failure α) where
  failure h := by cases h

instance (a : α) : Scans (pure a : Except Failure α) where
  failure h := by cases h

instance : Scans (.error .malformed : Except Failure α) where
  failure h := by
    cases h
    exact .inl trivial

theorem bind {x : Except Failure α} {g : α → Except Failure β} (hx : Scans x)
    (hg : ∀ a, Scans (g a)) : Scans (x >>= g) where
  failure {f} h := by
    cases x with
    | error e =>
      cases h
      exact hx.failure rfl
    | ok a => exact (hg a).failure h

instance (x : Except Failure α) (g : α → Except Failure β) [hx : Scans x] [hg : ∀ a, Scans (g a)] :
    Scans (x >>= g) := hx.bind hg

instance (x : Except Failure α) (g : α → β) [hx : Scans x] : Scans (x.map g) where
  failure h := hx.failure (map_error.mp h)

instance (c : Prop) [Decidable c] (x y : Except Failure α) [Scans x] [Scans y] :
    Scans (if c then x else y) := by
  split <;> infer_instance

instance (g : α → Except Failure β) [hg : ∀ a, Scans (g a)] (xs : List α) :
    Scans (xs.mapM g) := by
  induction xs with
  | nil => exact inferInstanceAs (Scans (pure []))
  | cons x rest ih =>
    rw [List.mapM_cons]
    infer_instance

end Scans

open Scans

instance (n : Nat) : Scans (charOfCode n) where
  failure h := by
    rw [charOfCode] at h
    split at h
    · cases h
      exact .inr rfl
    · split at h
      · cases h
        exact .inl trivial
      · split at h <;> cases h

instance (r : Rest) : Scans (nextLine r) := by unfold nextLine; infer_instance

instance (r : Rest) : Scans (readName r) := by
  unfold readName
  split <;> infer_instance

instance (r : Rest) : Scans (readAnchor r) := by unfold readAnchor; infer_instance

instance (r : Rest) : Scans (readHandle r) := by
  unfold readHandle
  split <;> infer_instance

theorem scans_tagChars (pending : Text.Bytes) (r : Rest) : Scans (tagChars pending r) := by
  match r with
  | [] => exact inferInstanceAs (Scans (.error .malformed))
  | s :: rest =>
    rw [tagChars.eq_def]
    dsimp only
    split
    · split
      · rename_i a b more
        split
        · exact scans_tagChars _ more
        · infer_instance
      · infer_instance
    · split
      · infer_instance
      · have := scans_tagChars [] rest
        infer_instance

instance (pending : Text.Bytes) (r : Rest) : Scans (tagChars pending r) := scans_tagChars pending r

instance (r : Rest) : Scans (readTagChars r) := by unfold readTagChars; infer_instance

instance (r : Rest) : Scans (tagParts r) := by unfold tagParts; infer_instance

instance (r : Rest) : Scans (readTag r) := by unfold readTag; infer_instance

instance (r : Rest) : Scans (readDigits r) := by
  unfold readDigits
  split <;> infer_instance

instance (r : Rest) : Scans (readVersion r) := by unfold readVersion; infer_instance

instance (r : Rest) : Scans (readShortForm r) := by unfold readShortForm; infer_instance

instance (r : Rest) : Scans (readDirective r) := by unfold readDirective; infer_instance

instance (r : Rest) : Scans (readIncrement r) := by unfold readIncrement; infer_instance

instance (r : Rest) : Scans (readBlockHeader r) := by unfold readBlockHeader; infer_instance

instance (folded : Bool) (margin : Nat) (r : Rest) : Scans (readBlock folded margin r) := by
  unfold readBlock
  refine Scans.bind inferInstance fun ⟨header, rest⟩ => ?_
  dsimp only
  split <;> infer_instance

instance (r : Rest) : Scans (quotedBreaks r) := by
  fun_induction quotedBreaks r <;> infer_instance

instance (r : Rest) : Scans (quotedEscape r) := by
  unfold quotedEscape
  split
  · infer_instance
  · split
    · infer_instance
    · split <;> infer_instance
    · infer_instance

instance (r : Rest) : Scans (quotedGap r) := by
  unfold quotedGap
  split
  · infer_instance
  · split <;> infer_instance

instance (double : Bool) (fuel : Nat) (r : Rest) : Scans (quotedText double fuel r) := by
  induction fuel generalizing r with
  | zero => unfold quotedText; infer_instance
  | succ fuel ih =>
    unfold quotedText
    cases r with
    | nil => infer_instance
    | cons s rest =>
      dsimp only
      have hescape := (inferInstance : Scans (quotedEscape rest))
      have hgap := (inferInstance : Scans (quotedGap (s :: rest)))
      cases he : quotedEscape rest <;> cases hg : quotedGap (s :: rest) <;>
        simp only [he, hg] at hescape hgap ⊢ <;> infer_instance

instance (double : Bool) (r : Rest) : Scans (readQuoted double r) := by
  unfold readQuoted
  infer_instance

namespace Scan

variable (s : Scan)

instance : Scans s.dropKey := by
  unfold dropKey
  split <;> infer_instance

instance : Scans s.saveKey := by unfold saveKey; infer_instance

instance (here : Spot) (k : Option PossibleKey) : Scans (refresh here k) := by
  unfold refresh
  split <;> infer_instance

instance : Scans s.settle := by unfold settle; infer_instance

instance : Scans s.closeAll := by unfold closeAll; infer_instance

instance : Scans s.directive := by unfold directive; infer_instance

instance (token : Token) : Scans (s.documentMark token) := by unfold documentMark; infer_instance

instance (token : Token) : Scans (s.openFlow token) := by unfold openFlow; infer_instance

instance (token : Token) : Scans (s.closeFlow token) := by
  unfold closeFlow
  refine Scans.bind inferInstance fun s => ?_
  split <;> infer_instance

instance : Scans s.comma := by unfold comma; infer_instance

instance : Scans s.item := by unfold item; infer_instance

instance : Scans s.markedKey := by unfold markedKey; infer_instance

instance : Scans s.value := by
  unfold value
  split <;> infer_instance

instance (read : Rest → Except Failure (Token × Rest)) [∀ r, Scans (read r)] :
    Scans (s.property read) := by unfold property; infer_instance

instance (token : List Char → Token) (r : Rest) : Scans (named token r) := by
  unfold named
  infer_instance

instance (double : Bool) (r : Rest) : Scans (quoted double r) := by
  unfold quoted
  infer_instance

instance (folded : Bool) : Scans (s.block folded) := by unfold block; infer_instance

instance : Scans s.plain := by unfold plain; infer_instance

instance : Scans s.step := by unfold step; infer_instance

instance (fuel : Nat) : Scans (run fuel s) := by
  induction fuel generalizing s with
  | zero => unfold run; infer_instance
  | succ fuel ih => unfold run; infer_instance

end Scan

instance (text : List Char) : Scans (tokensOf text) := by unfold tokensOf; infer_instance

/-! ### From tokens to values -/

namespace Parse

/-- A reader that fails as told. -/
class Strict (p : Parse α) : Prop where
  failure : ∀ {r : Reader} {f : Failure}, p r = .error f → f.IsTold

theorem strict_bind {p : Parse α} {g : α → Parse β} (hp : Strict p) (hg : ∀ a, Strict (g a)) :
    Strict (p >>= g) where
  failure {r f} h := by
    change (p r >>= fun q => g q.1 q.2) = _ at h
    cases he : p r with
    | error e =>
      rw [he] at h
      cases h
      exact hp.failure he
    | ok q =>
      rw [he] at h
      exact (hg q.1).failure h

instance (p : Parse α) (g : α → Parse β) [hp : Strict p] [hg : ∀ a, Strict (g a)] :
    Strict (p >>= g) := strict_bind hp hg

instance (a : α) : Strict (pure a : Parse α) where
  failure h := by cases h

instance (p : Parse α) (g : α → β) [hp : Strict p] : Strict (g <$> p) :=
  inferInstanceAs (Strict (p >>= fun a => pure (g a)))

instance (p : Parse α) (g : α → β) [hp : Strict p] : Strict (p.map g) :=
  inferInstanceAs (Strict (g <$> p))

instance : Strict (refuse : Parse α) where
  failure h := by
    cases h
    trivial

instance : Strict (get : Parse Reader) where
  failure h := by cases h

instance (g : Reader → Reader) : Strict (modify g : Parse PUnit) where
  failure h := by cases h

instance (c : Prop) [Decidable c] (p q : Parse α) [Strict p] [Strict q] :
    Strict (if c then p else q) := by
  split <;> infer_instance

instance : Strict next := by unfold next; infer_instance

instance (ts : List Token) : Strict (atOneOf ts) := by unfold atOneOf; infer_instance

instance : Strict advance := by unfold advance; infer_instance

instance (t : Token) : Strict (accept t) := by unfold accept; infer_instance

instance (t : Token) : Strict (expect t) := by unfold expect; infer_instance

instance (handle : Option (List Char)) (suffix : List Char) :
    Strict (resolveTag handle suffix) := by
  unfold resolveTag
  split
  · infer_instance
  · refine strict_bind inferInstance fun r => ?_
    split <;> infer_instance

instance : Strict readAnchor? := by
  unfold readAnchor?
  refine strict_bind inferInstance fun token => ?_
  split <;> infer_instance

instance : Strict readTag? := by
  unfold readTag?
  refine strict_bind inferInstance fun token => ?_
  split <;> infer_instance

instance : Strict properties := by
  unfold properties
  refine strict_bind inferInstance fun first => strict_bind inferInstance fun tag => ?_
  dsimp only
  match tag with
  | none => infer_instance
  | some (handle, suffix) => infer_instance

instance (anchor : Option (List Char)) (value : Anchored) : Strict (declare anchor value) := by
  unfold declare
  split <;> infer_instance

instance (anchor : Option (List Char)) (node : Node) : Strict (complete anchor node) := by
  unfold complete
  split <;> infer_instance

instance (name : List Char) : Strict (aliased name) := by
  unfold aliased
  refine strict_bind inferInstance fun r => ?_
  split <;> infer_instance

instance (p : Properties) : Strict (emptyNode p) := by unfold emptyNode; infer_instance

structure Readers (fuel : Nat) : Prop where
  node : ∀ inBlock inEntry, Strict (node inBlock inEntry fuel)
  nodeUnless : ∀ stops inBlock inEntry, Strict (nodeUnless stops inBlock inEntry fuel)
  blockItems : Strict (blockItems fuel)
  looseItems : Strict (looseItems fuel)
  blockEntries : Strict (blockEntries fuel)
  flowItems : ∀ first, Strict (flowItems first fuel)
  flowEntries : ∀ first, Strict (flowEntries first fuel)

theorem readers (fuel : Nat) : Readers fuel := by
  induction fuel with
  | zero =>
    constructor <;> intros
    · unfold node; infer_instance
    · unfold nodeUnless; infer_instance
    · unfold blockItems; infer_instance
    · unfold looseItems; infer_instance
    · unfold blockEntries; infer_instance
    · unfold flowItems; infer_instance
    · unfold flowEntries; infer_instance
  | succ fuel ih =>
    obtain ⟨hnode, hunless, hitems, hloose, hentries, hflow, hfields⟩ := ih
    constructor <;> intros
    · unfold node
      refine strict_bind inferInstance fun token => ?_
      split
      · infer_instance
      · refine strict_bind inferInstance fun p => strict_bind inferInstance fun token => ?_
        split <;> infer_instance
    · unfold nodeUnless
      refine strict_bind inferInstance fun token => ?_
      split <;> infer_instance
    · unfold blockItems; infer_instance
    · unfold looseItems; infer_instance
    · unfold blockEntries; dsimp only; infer_instance
    · have items : Strict (do
          let item ←
            if ← accept .key then
              let k ← nodeUnless [.value, .comma, .flowSequenceEnd] false false fuel
              let v ←
                if ← accept .value then nodeUnless [.comma, .flowSequenceEnd] false false fuel
                else pure .empty
              pure (Node.mapping .map [(k, v)])
            else node false false fuel
          return item :: (← flowItems false fuel) : Parse (List Node)) := by
        dsimp only
        refine strict_bind inferInstance fun key => ?_
        split <;> infer_instance
      unfold flowItems
      dsimp only at items ⊢
      infer_instance
    · have entries : Strict (do
          let entry ←
            if ← accept .key then
              let k ← nodeUnless [.value, .comma, .flowMappingEnd] false false fuel
              let v ←
                if ← accept .value then nodeUnless [.comma, .flowMappingEnd] false false fuel
                else pure .empty
              pure (k, v)
            else do
              let k ← node false false fuel
              pure (k, .empty)
          return entry :: (← flowEntries false fuel) : Parse (List (Node × Node))) := by
        dsimp only
        refine strict_bind inferInstance fun key => ?_
        split <;> infer_instance
      unfold flowEntries
      dsimp only at entries ⊢
      infer_instance

instance (versioned : Bool) (tokens : List Token) : Strict (directives versioned tokens) := by
  fun_induction directives versioned tokens <;> infer_instance

instance (fuel : Nat) : Strict (content fuel) := by
  have hnode := (readers fuel).node
  unfold content
  refine strict_bind inferInstance fun token => ?_
  split <;> infer_instance

instance : Strict finish := by unfold finish; infer_instance

instance (fuel : Nat) : Strict (document fuel) := by
  have hnode := (readers fuel).node
  unfold document
  refine strict_bind inferInstance fun token => ?_
  split <;> infer_instance

end Parse

/-- A document that has no values fails as told, or at an escape that is too large. -/
theorem failure_nodeRead {text : List Char} {f : Failure} (h : Node.read text = .error f) :
    f.IsTold ∨ (f = .tooLarge ∧ tokensOf text = .error .tooLarge) := by
  rw [Node.read] at h
  cases ht : tokensOf text with
  | error e =>
    rw [ht] at h
    cases h
    rcases Scans.failure ht with htold | rfl
    · exact .inl htold
    · exact .inr ⟨rfl, rfl⟩
  | ok tokens =>
    rw [ht] at h
    have hread : Except.map Prod.fst
        (Parse.document (4 * tokens.length + 4) { tokens, handles := [] }) = .error f := h
    exact .inl (Parse.Strict.failure (map_error.mp hread))


end Stencil.Yaml
