import Stencil.Proofs.Text.Lines
import Stencil.Proofs.Transform.Relocation

/-!
The way in which the lines of a template end. While nothing is minified, a compilation depends on
the lines of its source only; so a template in which other breaks stand becomes the same module, or
fails at the same line with the same message.
-/
namespace Stencil

open Text Options

variable {s t : List Char} {ls : List (List Char)}

namespace Text

theorem normalizeBreaks_eq (h : SplitsInto s ls) :
    normalizeBreaks s = joinLines (dropFinalBreak ls) := by
  rw [normalizeBreaks, h.lines_eq]

end Text

/-- The pieces of a source, their lines and what they hold, and why there are no more of them. -/
theorem Template.cut_eq (names : CharacterNames) (hs : SplitsInto s ls) (ht : SplitsInto t ls) :
    cut names s = cut names t := by
  rw [cut, cut, normalizeBreaks_eq hs, normalizeBreaks_eq ht]

/-- The grammar and the tree read the same pieces. -/
theorem Tree.ofSource_eq (names : Template.CharacterNames) (hs : SplitsInto s ls)
    (ht : SplitsInto t ls) : ofSource names s = ofSource names t := by
  rw [ofSource, ofSource, Template.cut_eq names hs ht]

namespace Compiler

variable {config : BuildConfig}

theorem compileMarkup_eq (names : Template.CharacterNames) (hs : SplitsInto s ls)
    (ht : SplitsInto t ls) (identifier : Identifier) (name : String) :
    compileMarkup names identifier s name = compileMarkup names identifier t name := by
  rw [compileMarkup, compileMarkup, Tree.tokenize, Tree.tokenize, Tree.ofSource_eq names hs ht]

theorem result_template (tools : Toolkit) (h : config.minify = none)
    (reported : List Switch) (identifier : Identifier) (source : List Char) (name : String) :
    (template tools reported identifier source config name).result =
      (compileMarkup tools.names identifier source name).2 := by
  simp only [template, h]

theorem template_eq (tools : Toolkit) (h : config.minify = none) (hs : SplitsInto s ls)
    (ht : SplitsInto t ls) (reported : List Switch) (identifier : Identifier) (name : String) :
    template tools reported identifier s config name =
      template tools reported identifier t config name := by
  simp only [template, h, compileMarkup_eq tools.names hs ht]

end Compiler

/-- What is seen of a template depends on the result of its compilation. -/
theorem FileTransform.seen_ended_congr (path : String) {c c' : Compiled σ}
    (h : c.result = c'.result) : (ended path c).seen = (ended path c').seen := by
  rw [ended, ended, h]
  cases c'.result with
  | ok fragment => rfl
  | error f => cases f <;> rfl

/-- Sources with the same lines have one compilation, and files with these sources become the same,
whatever was reported before and however they are written; so one kind of break can stand for all
others. -/
theorem seen_eq_of_splitsInto (tools : Toolkit) {config : BuildConfig}
    (hminify : config.minify = none) (hs : SplitsInto s ls) (ht : SplitsInto t ls) :
    (∀ (reported : List Switch) (identifier : Identifier) (name : String),
      Compiler.template tools reported identifier s config name =
          Compiler.template tools reported identifier t config name ∧
        ∀ b : Break, Compiler.template tools reported identifier s config name =
          Compiler.template tools reported identifier (b.text.intercalate ls) config name) ∧
      ∀ (reported reported' : List Switch) (v : TemplateRun ι) (w : TemplateRun κ),
        v.path = w.path → v.current = config → w.current = config →
        decodeUtf8 v.bytes = s → decodeUtf8 w.bytes = t →
        v.seen (Compiler.template tools) reported = w.seen (Compiler.template tools) reported' := by
  refine ⟨fun reported identifier name => ⟨?compiled, fun b => ?uniform⟩, ?seen⟩
  case compiled => exact Compiler.template_eq tools hminify hs ht reported identifier name
  case uniform =>
    have hb : SplitsInto (b.text.intercalate ls) ls := splitsInto_intercalate b hs.ne_nil hs.isLine
    exact Compiler.template_eq tools hminify hs hb reported identifier name
  case seen =>
    intro reported reported' v w hpath hv hw hvs hwt
    rw [v.seen_eq, w.seen_eq, hpath]
    apply FileTransform.seen_ended_congr
    rw [FileTransform.compilation, FileTransform.compilation, hv, hw, hvs, hwt,
      Compiler.result_template tools hminify, Compiler.result_template tools hminify,
      Compiler.compileMarkup_eq tools.names hs ht]

/-- Breaks in a text, in a tag, in a string, in a comment, between raw marks and at the end; in the
one file a break is cut in two by the chunks. -/
theorem seen_eq_of_splitsInto_mixed :
    let tools : Toolkit := ⟨fun _ source => .ok source, fun _ => none⟩
    let config : BuildConfig := { minify := none }
    let s := ("a\r\n\x7b% if\r'x\r\ny' %\x7d\n\x7b#\r\n#\x7d" ++
      "\x7b% raw %\x7d\r\r\x7b% endraw %\x7d\x7b% endif %\x7d\r\n").toList
    let t := ("a\n\x7b% if\n'x\ry' %\x7d\r\x7b#\n#\x7d" ++
      "\x7b% raw %\x7d\n\r\n\x7b% endraw %\x7d\x7b% endif %\x7d\r").toList
    let v : TemplateRun Bytes :=
      { path := "pages/b.twig", options := {}, eligible := by decide +kernel, initial := {}
        written := [(.write (encodeUtf8 "a\r".toList), {})]
        isWrite := List.forall_mem_singleton.mpr trivial
        last := .iterate [encodeUtf8 (s.drop 2)], ends := trivial
        current := config }
    let w : TemplateRun Bytes :=
      { path := "pages/b.twig", options := {}, eligible := by decide +kernel, initial := {}
        written := [], isWrite := List.forall_mem_nil _
        last := .stream .inMemory 5 (encodeUtf8 t), ends := trivial
        current := config }
    s ≠ t ∧ SplitsInto s (lines t) ∧ SplitsInto t (lines t) ∧ config.minify = none ∧
      v.path = w.path ∧ decodeUtf8 v.bytes = s ∧ decodeUtf8 w.bytes = t ∧
      Compiler.template tools [] .deferred s config "a" =
        Compiler.template tools [] .deferred t config "a" ∧
      v.seen (Compiler.template tools) [] = w.seen (Compiler.template tools) [.lint] ∧
      (w.seen (Compiler.template tools) [.lint]).file.state = .finished := by
  intro tools config s t v w
  have hs : SplitsInto s (lines t) := by decide +kernel
  have ht : SplitsInto t (lines t) := splitsInto_lines t
  have hv : decodeUtf8 v.bytes = s := by decide +kernel
  have hw : decodeUtf8 w.bytes = t := by decide +kernel
  have hminify : config.minify = none := rfl
  obtain ⟨hcompiled, hseen⟩ :=
    seen_eq_of_splitsInto (ι := Bytes) (κ := Bytes) tools hminify hs ht
  exact ⟨by decide +kernel, hs, ht, rfl, rfl, hv, hw, (hcompiled [] .deferred "a").1,
    hseen [] [.lint] v w rfl rfl rfl hv hw, by decide +kernel⟩

example :
    let tools : Toolkit := ⟨fun _ markup => .ok markup, fun _ => none⟩
    let compiled (source : String) :=
      Compiler.template tools [] .deferred source.toList { minify := none } "a"
    (["a\r\n\r\x7b% if %\x7d", "a\n\n\x7b% if %\x7d"].map fun source =>
      match (compiled source).result with
      | .error (.error e) => e.line
      | _ => none) = [some 3, some 3] := by
  decide +kernel

end Stencil
