import Stencil.Proofs.Json.Plain
import Stencil.Proofs.Module.Reading
import Stencil.Proofs.Text.Utf8
import Stencil.Proofs.Transform.Closing

/-!
Every module is one line of printable ASCII, with a line break in front. Its strings hold no raw
line terminator, whatever the template and its name do, and its encoding is one byte a character.
-/
namespace Stencil

open Text Options

namespace Text

/-- The characters that end a line for the runtime that loads modules, and that no string may hold
as they are. -/
def lineTerminators : List Char := ['\n', '\r', '\u2028', '\u2029']

/-- The text is a line break, and then printable ASCII to its end. -/
def OneLine (text : List Char) : Prop := ∃ line, text = '\n' :: line ∧ Plain line

theorem Plain.not_mem_lineTerminators {s : List Char} (h : Plain s) :
    ∀ c ∈ s, c ∉ lineTerminators := by
  intro c hc hend
  have hplain := h c hc
  simp only [lineTerminators, List.mem_cons, List.not_mem_nil, or_false] at hend
  rcases hend with rfl | rfl | rfl | rfl <;> exact absurd hplain (by decide)

theorem OneLine.not_mem_lineTerminators {text : List Char} (h : OneLine text) :
    ∀ c ∈ text.tail, c ∉ lineTerminators := by
  obtain ⟨line, rfl, hline⟩ := h
  exact hline.not_mem_lineTerminators

/-- Such a text is its own encoding. -/
theorem OneLine.encodeUtf8_eq {text : List Char} (h : OneLine text) :
    encodeUtf8 text = text.map fun c => UInt8.ofNat c.toNat := by
  obtain ⟨line, rfl, hline⟩ := h
  apply encodeUtf8_of_lt
  intro c hc
  rcases List.mem_cons.mp hc with rfl | hc
  · decide
  · exact Nat.lt_trans (hline c hc).2 (by decide)

end Text

namespace Module

/-- A name in a constructor call: any string of units, also one with surrogates that stand alone, or
what a module loader fills in. -/
inductive CallName where
  | fixed (value : Units)
  | loaded
  deriving DecidableEq

namespace CallName

def text : CallName → List Char
  | .fixed value => Json.writeText value
  | .loaded => placeholders

theorem plain_text (name : CallName) : Plain name.text := by
  cases name with
  | fixed value => exact Json.plain_writeText value
  | loaded => decide

/-- The name of a template. -/
def ofIdentifier : Identifier → CallName
  | .literal value => .fixed (units value)
  | .deferred => .loaded

end CallName

/-- The constructor call under any name. -/
def callFor (name : CallName) (tokens : List Char) : List Char :=
  callStart ++ name.text ++ dataMark ++ tokens ++ callEnd

theorem constructorCall_eq (identifier : Identifier) (tokens : List Char) :
    constructorCall identifier tokens = callFor (.ofIdentifier identifier) tokens := by
  cases identifier <;> rfl

theorem oneLine_wrap {fragment : List Char} (h : Plain fragment) : OneLine (wrap fragment) := by
  have hstart : moduleStart = '\n' :: "module.exports = ".toList := by decide
  have hexports : Plain "module.exports = ".toList := by decide
  have hend : Plain [';'] := by decide
  exact ⟨"module.exports = ".toList ++ fragment ++ [';'], by rw [wrap, hstart]; rfl,
    plain_append.mpr ⟨plain_append.mpr ⟨hexports, h⟩, hend⟩⟩

theorem oneLine_callFor (name : CallName) {tree : Json} {tokens : List Char}
    (h : tree.serialize = some tokens) : OneLine (wrap (callFor name tokens)) := by
  obtain ⟨-, rfl⟩ := (Json.serialize_eq_some _ _).mp h
  have hstart : Plain callStart := by decide
  have hmark : Plain dataMark := by decide
  have hend : Plain callEnd := by decide
  apply oneLine_wrap
  simp [callFor, hstart, name.plain_text, hmark, Json.plain_write tree, hend]

end Module

namespace Compiler

/-- What a compilation comes to is the constructor call for a token tree. -/
theorem compileMarkup_ok {names : Template.CharacterNames} {identifier : Identifier}
    {markup : List Char} {name : String} {fragment : List Char}
    (h : (compileMarkup names identifier markup name).2 = .ok fragment) :
    ∃ tree tokens, (Tree.treeJson tree).serialize = some tokens ∧
      fragment = Module.constructorCall identifier tokens := by
  rw [compileMarkup] at h
  cases ht : Tree.tokenize names name markup with
  | error e => simp [ht] at h
  | ok tree =>
    simp only [ht] at h
    cases hs : (Tree.treeJson tree).serialize with
    | none => simp [hs] at h
    | some tokens =>
      simp only [hs] at h
      cases h
      exact ⟨tree, tokens, hs, rfl⟩

theorem template_ok {tools : Toolkit} {reported : List Switch} {identifier : Identifier}
    {source : List Char} {config : BuildConfig} {name : String} {fragment : List Char}
    (h : (template tools reported identifier source config name).result = .ok fragment) :
    ∃ tree tokens, (Tree.treeJson tree).serialize = some tokens ∧
      fragment = Module.constructorCall identifier tokens := by
  rw [template.eq_def] at h
  cases hm : config.minify with
  | none =>
    simp only [hm] at h
    exact compileMarkup_ok h
  | some o =>
    simp only [hm] at h
    cases hr : (Minify.minified tools.engine reported o source).result with
    | error e => simp [hr] at h
    | ok markup =>
      simp only [hr] at h
      exact compileMarkup_ok h

end Compiler

namespace FileTransform

/-- Only the end of a collected template finishes it, with what the compiler made of it. -/
theorem finished_perform {compile : Compiler σ} {t : FileTransform} (h : t.state ≠ .finished)
    {compiler : σ} {config : BuildConfig} {operation : Operation ι}
    (hf : (t.perform compile compiler config operation).transform.state = .finished) :
    ∃ bytes fragment, (compilation compile t.path compiler config bytes).result = .ok fragment ∧
      (t.perform compile compiler config operation).error = none ∧
      (t.perform compile compiler config operation).emitted =
        [encodeUtf8 (Module.wrap fragment)] := by
  have hsettled : (t.perform compile compiler config operation).transform.state.IsSettled := by
    rw [hf]
    trivial
  by_cases ha : operation = .abort
  · subst ha
    cases hf
  rcases (settled_perform_iff compile compiler config operation).mp hsettled with hs | hs | hs
  · rw [perform_settled compile hs ha] at hf
    exact absurd hf h
  · exact absurd hs ha
  · obtain ⟨hbuffering, hends, -⟩ := hs
    rw [perform_ended hbuffering hends] at hf ⊢
    refine ⟨t.chunks.reverse.flatten ++ operation.given.flatten, ?_⟩
    rw [ended] at hf ⊢
    cases hr : (compilation compile t.path compiler config
      (t.chunks.reverse.flatten ++ operation.given.flatten)).result with
    | ok fragment => exact ⟨fragment, rfl, rfl, rfl⟩
    | error failure => cases failure <;> simp [hr] at hf

end FileTransform

/-- Every module is one line. Under any name, and for any token tree without a whole number too long
to be written, there is a module: a line break and printable ASCII behind it, so no string in it is
cut by a line terminator, and its bytes are its characters. A file that an operation finishes comes
out as the bytes of such a module, and no error comes with it. -/
theorem oneLine_module (name : Module.CallName) (tree : Json) :
    ((∃ tokens, tree.serialize = some tokens) ↔ tree.Short) ∧
    (∀ tokens, tree.serialize = some tokens →
      let text := Module.wrap (Module.callFor name tokens)
      OneLine text ∧ (∀ c ∈ text.tail, c ∉ lineTerminators) ∧
        encodeUtf8 text = (text.map fun c => UInt8.ofNat c.toNat) ∧
        ∀ identifier, name = .ofIdentifier identifier →
          text = Module.wrap (Module.constructorCall identifier tokens)) ∧
    ∀ (tools : Toolkit) (reported : List Switch) (t : FileTransform) (config : BuildConfig)
      (operation : Operation ι), t.state ≠ .finished →
        let r := t.perform (.template tools) reported config operation
        r.transform.state = .finished →
          let identifier := Path.identifier t.path config.relativePath config.replacePaths
          ∃ tree tokens, (Tree.treeJson tree).serialize = some tokens ∧
            let text := Module.wrap (Module.constructorCall identifier tokens)
            OneLine text ∧ r.error = none ∧
              r.emitted = [text.map fun c => UInt8.ofNat c.toNat] := by
  refine ⟨?short, ?printed, ?finished⟩
  case short => simp [Json.serialize_eq_some]
  case printed =>
    intro tokens h text
    have hline : OneLine text := Module.oneLine_callFor name h
    refine ⟨hline, hline.not_mem_lineTerminators, hline.encodeUtf8_eq, ?_⟩
    rintro identifier rfl
    rw [Module.constructorCall_eq]
  case finished =>
    intro tools reported t config operation h r hf identifier
    obtain ⟨bytes, fragment, hok, herror, hemitted⟩ := FileTransform.finished_perform h hf
    obtain ⟨tree, tokens, hserialize, rfl⟩ := Compiler.template_ok hok
    have hline : OneLine (Module.wrap (Module.constructorCall identifier tokens)) := by
      rw [Module.constructorCall_eq]
      exact Module.oneLine_callFor _ hserialize
    exact ⟨tree, tokens, hserialize, hline, herror, hline.encodeUtf8_eq ▸ hemitted⟩

/-- Surrogates that stand alone, line terminators and quotation marks, in a name, a field and a
string, and a file with a line separator in its name. -/
theorem oneLine_module_surrogates :
    let name : Module.CallName := .fixed [0x61, 0xD800, 0x2028]
    let tree : Json := .list [.object [([0x0A, 0xD83D, 0xDE00], .text [0x22, 0x7F, 0xDC00])],
      .integer (-12)]
    let tokens := "[\x7b\"\\n\\ud83d\\ude00\":\"\\\"\\u007f\\udc00\"\x7d,-12]".toList
    let text := Module.wrap (Module.callFor name tokens)
    let t : FileTransform := ⟨"a\u2028.twig", .buffering, [encodeUtf8 ['\r', '\u2029']]⟩
    let tools : Toolkit := ⟨fun _ source => .ok source, fun _ => none⟩
    let last : Operation Bytes := .finish
    tree.Short ∧ tree.serialize = some tokens ∧ OneLine text ∧
      (∀ c ∈ text.tail, c ∉ lineTerminators) ∧ t.state ≠ .finished ∧
      (t.perform (.template tools) [] {} last).transform.state = .finished ∧
      ∃ output, OneLine output ∧ (t.perform (.template tools) [] {} last).emitted =
        [output.map fun c => UInt8.ofNat c.toNat] := by
  intro name tree tokens text t tools last
  obtain ⟨hshort, hprinted, hfinished⟩ := oneLine_module (ι := Bytes) name tree
  have hserialize : tree.serialize = some tokens := by decide +kernel
  have hopen : t.state ≠ .finished := by decide
  have hf : (t.perform (.template tools) [] {} last).transform.state = .finished := by
    decide +kernel
  obtain ⟨hline, hterminators, -⟩ := hprinted tokens hserialize
  obtain ⟨_, _, -, hmodule, -, hemitted⟩ := hfinished tools [] t {} last hopen hf
  exact ⟨hshort.mp ⟨tokens, hserialize⟩, hserialize, hline, hterminators, hopen, hf, _, hmodule,
    hemitted⟩

end Stencil
