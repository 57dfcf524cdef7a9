import Stencil.Proofs.Text.Decoding
import Stencil.Proofs.Transform.Outcome
import Stencil.Proofs.Transform.Relocation

/-!
Templates with bytes that are no text. The compiler is given one text, which shows the damage where
it stands: a text in the file is found in it unchanged, whatever stands before and after it and
however the file is cut into chunks. No end of a file fails for its damage; it leads to what the
shown text would lead to.
-/
namespace Stencil

open Text

namespace TemplateRun

open FileTransform

/-- The sources that the compiler is given. -/
def sources (compile : Compiler σ) (compiler : σ) (v : TemplateRun ι) : List (List Char) :=
  let file := (opened v.path v.options v.initial).1
  (afterAll compile.recorded file (compiler, []) v.operations).2.2.map (·.source)

theorem calls_ended (path : String) (compile : Compiler σ) (compiler : σ) (config : BuildConfig)
    (bytes : Bytes) :
    (ended path (compilation compile.recorded path (compiler, []) config bytes)).compiler.2.map
      (·.source) = [decodeUtf8 bytes] := by
  simp only [ended, compilation, Compiler.recorded]
  cases (compile compiler (Path.identifier path config.relativePath config.replacePaths)
    (decodeUtf8 bytes) config path).result with
  | ok fragment => rfl
  | error failure => cases failure <;> rfl

/-- The compiler is given the text of all bytes, once. -/
theorem sources_eq (compile : Compiler σ) (compiler : σ) (v : TemplateRun ι) :
    v.sources compile compiler = [decodeUtf8 v.bytes] := by
  have hwritten := afterAll_writes (t := ⟨v.path, .buffering, []⟩) compile.recorded rfl
    (compiler, []) v.written v.isWrite
  simp only [sources, opened_template v.initial v.eligible, operations, afterAll_append, hwritten,
    afterAll]
  rw [perform_ended (by rfl) v.ends, List.append_nil, List.reverse_reverse]
  exact calls_ended v.path compile compiler v.current v.bytes

/-- What is seen of a damaged template is what is seen of the text that it shows. -/
theorem seen_eq_of_decodeUtf8 (compile : Compiler σ) (compiler : σ) (v : TemplateRun ι)
    (w : TemplateRun κ) (hpath : v.path = w.path) (hconfig : v.current = w.current)
    (hbytes : w.bytes = encodeUtf8 (decodeUtf8 v.bytes)) :
    v.seen compile compiler = w.seen compile compiler := by
  rw [v.seen_eq, w.seen_eq, compilation, compilation, hpath, hconfig, hbytes,
    decodeUtf8_encodeUtf8]

/-- Damage stays where it is. Bytes have one reading, and the compiler is given that, with a mark
for each damaged piece; a text in the file stands in it unchanged, and what is before and after the
text is decoded by itself. Whatever comes of the file comes of the given text as well, so no end
fails for damage. -/
theorem sources_of_damaged (compile : Compiler σ) (compiler : σ) (v : TemplateRun ι) :
    (∀ bytes, ∃ ds, (∀ es, Reads bytes es ↔ ds = es) ∧
      decodeUtf8 bytes = ds.map fun d => d.getD replacement) ∧
    (∀ xs s, v.bytes = xs ++ encodeUtf8 s →
      v.sources compile compiler = [decodeUtf8 xs ++ s]) ∧
    (∀ s ys, v.bytes = encodeUtf8 s ++ ys →
      v.sources compile compiler = [s ++ decodeUtf8 ys]) ∧
    (∀ xs s ys, s ≠ [] → v.bytes = xs ++ encodeUtf8 s ++ ys →
      v.sources compile compiler = [decodeUtf8 xs ++ s ++ decodeUtf8 ys]) ∧
    ∀ w : TemplateRun κ, v.path = w.path → v.current = w.current →
      w.bytes = encodeUtf8 (decodeUtf8 v.bytes) →
        v.seen compile compiler = w.seen compile compiler := by
  refine ⟨?reading, ?before, ?behind, ?between, ?ended⟩
  case reading => exact fun bytes => ⟨_, reads_iff bytes, rfl⟩
  case before =>
    intro xs s h
    rw [v.sources_eq, h, decodeUtf8_append_text]
  case behind =>
    intro s ys h
    rw [v.sources_eq, h, decodeUtf8_text]
  case between =>
    intro xs s ys hs h
    rw [v.sources_eq, h, decodeUtf8_between xs hs ys]
  case ended => exact fun w => seen_eq_of_decodeUtf8 compile compiler v w

/-- A character that is cut short in front of a printed value, and a surrogate behind it; the value
is cut by the chunks. -/
theorem sources_of_damaged_value :
    let compile := Compiler.template ⟨fun _ source => .ok source, fun _ => none⟩
    let s := "\x7b\x7b é \x7d\x7d".toList
    let xs : Bytes := [0x61, 0xE2, 0x82]
    let ys : Bytes := [0xED, 0xA0, 0x21]
    let v : TemplateRun Bytes :=
      { path := "c.twig", options := {}, eligible := by decide +kernel, initial := {}
        written := [(.write [0x61, 0xE2], {}), (.write [0x82, 0x7B, 0x7B, 0x20, 0xC3], {})]
        isWrite := List.forall_mem_cons.mpr ⟨trivial, List.forall_mem_singleton.mpr trivial⟩
        last := .stream .inMemory 4 [0xA9, 0x20, 0x7D, 0x7D, 0xED, 0xA0, 0x21], ends := trivial
        current := { minify := none } }
    let w : TemplateRun Bytes :=
      { v with written := [], isWrite := List.forall_mem_nil _
               last := .iterate [encodeUtf8 (decodeUtf8 v.bytes)], ends := trivial }
    s ≠ [] ∧ v.bytes = xs ++ encodeUtf8 s ++ ys ∧
      v.sources compile [] = [decodeUtf8 xs ++ s ++ decodeUtf8 ys] ∧
      v.bytes = xs ++ encodeUtf8 s ++ [0xED, 0xA0] ++ encodeUtf8 ['!'] ∧
      v.sources compile [] = [decodeUtf8 (xs ++ encodeUtf8 s ++ [0xED, 0xA0]) ++ ['!']] ∧
      v.bytes = encodeUtf8 ['a'] ++ ([0xE2, 0x82] ++ encodeUtf8 s ++ ys) ∧
      v.sources compile [] = [['a'] ++ decodeUtf8 ([0xE2, 0x82] ++ encodeUtf8 s ++ ys)] ∧
      decodeUtf8 xs = ['a', replacement] ∧ decodeUtf8 ys = [replacement, replacement, '!'] ∧
      v.path = w.path ∧ v.current = w.current ∧ w.bytes = encodeUtf8 (decodeUtf8 v.bytes) ∧
      v.seen compile [] = w.seen compile [] ∧ (v.seen compile []).file.state = .finished := by
  intro compile s xs ys v w
  have hs : s ≠ [] := by decide +kernel
  have hbetween : v.bytes = xs ++ encodeUtf8 s ++ ys := by decide +kernel
  have hbefore : v.bytes = xs ++ encodeUtf8 s ++ [0xED, 0xA0] ++ encodeUtf8 ['!'] := by
    decide +kernel
  have hbehind : v.bytes = encodeUtf8 ['a'] ++ ([0xE2, 0x82] ++ encodeUtf8 s ++ ys) := by
    decide +kernel
  have hw : w.bytes = encodeUtf8 (decodeUtf8 v.bytes) := by decide +kernel
  obtain ⟨-, before, behind, between, ended⟩ :=
    sources_of_damaged (ι := Bytes) (κ := Bytes) compile [] v
  exact ⟨hs, hbetween, between xs s ys hs hbetween, hbefore, before _ _ hbefore, hbehind,
    behind _ _ hbehind, by decide +kernel, by decide +kernel, rfl, rfl, hw, ended w rfl rfl hw,
    by decide +kernel⟩

end TemplateRun

end Stencil
