import Stencil.Proofs.Module.Reading
import Stencil.Proofs.Template.Failure
import Stencil.Proofs.Transform.Operation
import Stencil.Proofs.Tree.Blocks

/-!
When the compilation of a template breaks down, which is neither a result nor an error of the
template. Its markup breaks down while it is read, or its tree holds a whole number that is too long
to be written; and reading breaks down at a numeral, or since expressions are nested too far.
-/
namespace Stencil

open Text Options Template

inductive Tree.BreaksDown (names : CharacterNames) (markup : List Char) : Breakdown → Prop where
  | tooManyDigits (h : ofSource names markup = .error .tooManyDigits) :
    BreaksDown names markup .tooManyDigits
  | foreignDigit (h : ofSource names markup = .error .foreignDigit) :
    BreaksDown names markup .foreignDigit
  | nestedTooDeeply (h : ofSource names markup = .error .nestedTooDeeply) :
    BreaksDown names markup .nestedTooDeeply
  | unwritten (tree : List Node) (h : ofSource names markup = .ok tree)
    (hs : ¬(treeJson tree).Short) : BreaksDown names markup .tooManyDigits

/-- A numeral in markup is not converted, or its number is too long to be written. -/
def Tree.HasBadNumeral (names : CharacterNames) (markup : List Char) : Prop :=
  (∃ f rest, rest <:+ normalizeBreaks markup ∧ Unconverted rest f) ∨
    ∃ tree, ofSource names markup = .ok tree ∧ ¬(treeJson tree).Short

namespace Tree

theorem failure_ofSource {names : CharacterNames} {markup : List Char} {f : Failure}
    (h : ofSource names markup = .error f) :
    f.Expected ∨ ∃ rest, rest <:+ normalizeBreaks markup ∧ Unconverted rest f := by
  rw [ofSource] at h
  cases ho : outline (cut names markup) with
  | error e =>
    simp only [ho, Except.error.injEq] at h
    subst h
    exact (failure_outline ho).elim .inl failure_cutFrom
  | ok items =>
    obtain ⟨-, tree, htree, -⟩ := agrees_of_outline ho
    simp [ho, htree] at h

/-- Apart from the nesting of its expressions, only a numeral makes a template break down. -/
theorem BreaksDown.cause {names : CharacterNames} {markup : List Char} {b : Breakdown}
    (h : BreaksDown names markup b) (hb : b ≠ .nestedTooDeeply) : HasBadNumeral names markup := by
  cases h with
  | tooManyDigits h =>
    obtain ⟨rest, hr⟩ := (failure_ofSource h).resolve_left id
    exact .inl ⟨_, rest, hr⟩
  | foreignDigit h =>
    obtain ⟨rest, hr⟩ := (failure_ofSource h).resolve_left id
    exact .inl ⟨_, rest, hr⟩
  | nestedTooDeeply h => exact absurd rfl hb
  | unwritten tree h hs => exact .inr ⟨tree, h, hs⟩

section Source

variable {names : CharacterNames} {markup : List Char}

/-- Markup without a tree breaks a compilation down if its failure is no fault. -/
theorem breaksDown_of_error {f : Template.Failure} (ho : ofSource names markup = .error f)
    (name : String) (b : Breakdown) :
    failureFor name f = .breakdown b ↔ BreaksDown names markup b := by
  constructor
  · intro h
    cases f <;> cases h
    · exact .tooManyDigits ho
    · exact .foreignDigit ho
    · exact .nestedTooDeeply ho
  · intro h
    cases h with
    | unwritten tree h hlong => cases ho.symm.trans h
    | _ h =>
      cases ho.symm.trans h
      rfl

/-- Markup with a tree breaks a compilation down if the tree cannot be written. -/
theorem breaksDown_of_ok {tree : List Node} (ho : ofSource names markup = .ok tree)
    (b : Breakdown) :
    BreaksDown names markup b ↔ (treeJson tree).serialize = none ∧ b = .tooManyDigits := by
  have hwritten (text : List Char) := Json.serialize_eq_some (treeJson tree) text
  constructor
  · intro h
    cases h with
    | unwritten tree' h hlong =>
      cases ho.symm.trans h
      refine ⟨Option.eq_none_iff_forall_ne_some.mpr fun text hs => ?_, rfl⟩
      exact hlong ((hwritten text).mp hs).1
    | _ h => cases ho.symm.trans h
  · rintro ⟨hs, rfl⟩
    refine .unwritten tree ho fun hshort => ?_
    rw [(hwritten _).mpr ⟨hshort, rfl⟩] at hs
    cases hs

end Source

end Tree

/-- The markup that is read under a configuration, unless the engine refuses the source. -/
def Minify.markup? (engine : MarkupEngine) (config : BuildConfig) (source : List Char) :
    Option (List Char) :=
  match config.minify with
  | none => some source
  | some o => (run engine o source).toOption

namespace Compiler

theorem compileMarkup_eq_breakdown (names : CharacterNames) (identifier : Identifier)
    (markup : List Char) (name : String) (b : Breakdown) :
    (compileMarkup names identifier markup name).2 = .error (.breakdown b) ↔
      Tree.BreaksDown names markup b := by
  simp only [compileMarkup, Tree.tokenize]
  cases ho : Tree.ofSource names markup with
  | error f =>
    simp only [mapError_mk_error, Except.error.injEq]
    exact Tree.breaksDown_of_error ho name b
  | ok tree =>
    rw [Tree.breaksDown_of_ok ho]
    simp only [mapError_mk_ok]
    cases (Tree.treeJson tree).serialize <;> simp [eq_comm]

/-- A compilation breaks down exactly if the markup that it reads does. -/
theorem template_eq_breakdown (tools : Toolkit) (reported : List Switch)
    (identifier : Identifier) (source : List Char) (config : BuildConfig) (name : String)
    (b : Breakdown) :
    (template tools reported identifier source config name).result = .error (.breakdown b) ↔
      ∃ markup, Minify.markup? tools.engine config source = some markup ∧
        Tree.BreaksDown tools.names markup b := by
  rw [template.eq_def, Minify.markup?]
  cases config.minify with
  | none => simp [compileMarkup_eq_breakdown]
  | some o =>
    simp only [Minify.minified]
    cases Minify.run tools.engine o source with
    | error e => simp [Except.toOption]
    | ok markup => simp [Except.toOption, compileMarkup_eq_breakdown]

end Compiler

theorem FileTransform.ended_eq_breakdown (path : String) (c : Compiled σ) (b : Breakdown) :
    (ended path c).error = some (.compilation (.breakdown b)) ↔
      c.result = .error (.breakdown b) := by
  rw [ended]
  cases c.result with
  | ok fragment => simp
  | error failure => cases failure <;> simp

end Stencil
