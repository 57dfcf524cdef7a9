import Stencil.Proofs.Transform.Operation

/-!
Delivering bytes to a file. However they are cut into chunks, and whoever reads them from where, a
template becomes what it would become if it came at once, and any other file passes through byte by
byte.
-/
namespace Stencil

open Text Options

/-- The operation brings some bytes and then the end. A stream is read in pieces of a positive size
or as a whole. -/
def Operation.Brings : Operation ι → Bytes → Prop
  | .finish, data => data = []
  | .iterate chunks, data => chunks.flatten = data
  | .stream source size start, data => (1 ≤ size ∨ size = -1) ∧ source.left start = data
  | _, _ => False

theorem Operation.Brings.ends {operation : Operation ι} {data : Bytes}
    (h : operation.Brings data) : operation.Ends := by
  cases operation with
  | write | abort => cases h
  | _ => trivial

theorem Operation.Brings.given {operation : Operation ι} {data : Bytes}
    (h : operation.Brings data) : operation.given.flatten = data := by
  cases operation with
  | write | abort => cases h
  | finish => exact h.symm
  | iterate chunks => exact h
  | stream source size start =>
    obtain ⟨hsize, hleft⟩ := h
    rw [Operation.given, source.flatten_pieces (by omega), hleft]

/-- A way to deliver bytes to a file: chunks that are written one by one, and an operation that
brings the rest. -/
structure Delivery (ι : Type) where
  written : List Bytes
  last : Operation ι

namespace Delivery

/-- The bytes that are delivered. -/
def Brings (v : Delivery ι) (data : Bytes) : Prop :=
  ∃ rest, v.last.Brings rest ∧ v.written.flatten ++ rest = data

/-- Everything in one chunk. -/
def whole (data : Bytes) : Delivery ι := ⟨[data], .finish⟩

theorem whole_brings (data : Bytes) : (whole data : Delivery ι).Brings data :=
  ⟨[], rfl, by simp [whole]⟩

def writes (v : Delivery ι) (config : BuildConfig) : List (Operation ι × BuildConfig) :=
  v.written.map fun chunk => (.write chunk, config)

/-- The operations of a delivery, under one configuration. -/
def operations (v : Delivery ι) (config : BuildConfig) : List (Operation ι × BuildConfig) :=
  v.writes config ++ [(v.last, config)]

theorem isWrite_of_mem (v : Delivery ι) (config : BuildConfig) (p : Operation ι × BuildConfig)
    (hp : p ∈ v.writes config) : p.1.IsWrite := by
  obtain ⟨chunk, -, rfl⟩ := List.mem_map.mp hp
  trivial

theorem given_writes (v : Delivery ι) (config : BuildConfig) :
    (v.writes config).flatMap (·.1.given) = v.written := by
  simp [writes, List.flatMap_map, Operation.given]

end Delivery

/-- What is seen of a delivery: the bytes that came out, the errors, and the file afterwards. -/
structure Delivered where
  output : Bytes
  errors : List TransformError
  file : FileTransform
  deriving DecidableEq, Repr

namespace FileTransform

variable {compile : Compiler σ} {t : FileTransform}

def delivered (compile : Compiler σ) (t : FileTransform) (compiler : σ) (config : BuildConfig)
    (v : Delivery ι) : Delivered :=
  let rs := answers compile t compiler (v.operations config)
  ⟨(rs.flatMap (·.emitted)).flatten, rs.filterMap (·.error),
    (afterAll compile t compiler (v.operations config)).1⟩

def seenAll (compile : Compiler σ) (t : FileTransform) (compiler : σ)
    (operations : List (Operation ι × BuildConfig)) : Delivered :=
  let rs := answers compile t compiler operations
  ⟨(rs.flatMap (·.emitted)).flatten, rs.filterMap (·.error),
    (afterAll compile t compiler operations).1⟩

def Ran.seen (r : Ran σ) : Delivered := ⟨r.emitted.flatten, r.error.toList, r.transform⟩

/-- Of a template that is written to and ended, only the end is seen, and it depends on all that was
written. -/
theorem seenAll_buffering (compile : Compiler σ) (h : t.state = .buffering) (compiler : σ)
    (written : List (Operation ι × BuildConfig)) (hw : ∀ p ∈ written, p.1.IsWrite)
    {last : Operation ι} (hl : last.Ends) (config : BuildConfig) :
    t.seenAll compile compiler (written ++ [(last, config)]) =
      (ended t.path (compilation compile t.path compiler config
        (t.chunks.reverse.flatten ++ (written.flatMap (·.1.given)).flatten ++
          last.given.flatten))).seen := by
  have hquiet := answers_writes compile h compiler written hw
  have hemitted : (answers compile t compiler written).flatMap (·.emitted) = [] :=
    List.flatMap_eq_nil_iff.mpr fun r hr => (hquiet r hr).1
  have herrors : (answers compile t compiler written).filterMap (·.error) = [] :=
    List.filterMap_eq_nil_iff.mpr fun r hr => (hquiet r hr).2.1
  have hend : ({ t with chunks := (written.flatMap (·.1.given)).reverse ++ t.chunks } :
      FileTransform).perform compile compiler config last =
        ended t.path (compilation compile t.path compiler config
          (t.chunks.reverse.flatten ++ (written.flatMap (·.1.given)).flatten ++
            last.given.flatten)) := by
    rw [perform_ended (by exact h) hl]
    simp
  rw [seenAll, answers_append, afterAll_append, afterAll_writes compile h compiler written hw]
  simp only [answers, afterAll, hend, List.flatMap_append, List.filterMap_append, hemitted, herrors]
  generalize ended t.path _ = r
  cases he : r.error <;> simp [Ran.seen, he]

theorem delivered_buffering (compile : Compiler σ) (h : t.state = .buffering)
    (hc : t.chunks = []) (compiler : σ) (config : BuildConfig) {v : Delivery ι} {data : Bytes}
    (hv : v.Brings data) :
    t.delivered compile compiler config v =
      (ended t.path (compilation compile t.path compiler config data)).seen := by
  obtain ⟨rest, hlast, hdata⟩ := hv
  have hall := seenAll_buffering compile h compiler _ (v.isWrite_of_mem config) hlast.ends config
  rw [v.given_writes, hc, hlast.given, List.reverse_nil, List.flatten_nil, List.nil_append,
    hdata] at hall
  exact hall

/-- A file that is no template stays as it is, and gives back what it takes. -/
theorem answers_passthrough (compile : Compiler σ) (h : t.state = .passthrough) (compiler : σ)
    (operations : List (Operation ι × BuildConfig)) (ha : ∀ p ∈ operations, p.1 ≠ .abort) :
    answers compile t compiler operations =
        operations.map (fun p => ⟨t, compiler, [], p.1.given, none⟩) ∧
      afterAll compile t compiler operations = (t, compiler) := by
  induction operations with
  | nil => exact ⟨rfl, rfl⟩
  | cons p rest ih =>
    obtain ⟨hp, hrest⟩ := List.forall_mem_cons.mp ha
    obtain ⟨hanswers, hafter⟩ := ih hrest
    rw [answers, afterAll, perform_passthrough h hp]
    exact ⟨by rw [hanswers, List.map_cons], hafter⟩

theorem delivered_passthrough (h : t.state = .passthrough) (compiler : σ) (config : BuildConfig)
    {v : Delivery ι} {data : Bytes} (hv : v.Brings data) :
    t.delivered compile compiler config v = ⟨data, [], t⟩ := by
  obtain ⟨rest, hlast, hdata⟩ := hv
  have hnone : ∀ p ∈ v.operations config, p.1 ≠ .abort := by
    intro p hp
    rcases List.mem_append.mp hp with hp | hp
    · have hw := v.isWrite_of_mem config p hp
      intro habort
      rw [habort] at hw
      exact hw
    · cases List.mem_singleton.mp hp
      intro (habort : v.last = .abort)
      rw [habort] at hlast
      exact hlast
  obtain ⟨hanswers, hafter⟩ := answers_passthrough compile h compiler _ hnone
  have houtput : ((v.operations config).flatMap (·.1.given)).flatten = data := by
    rw [Delivery.operations, List.flatMap_append, v.given_writes]
    simp [hlast.given, hdata]
  have herrors : ((v.operations config).map fun p =>
      (⟨t, compiler, [], p.1.given, none⟩ : Ran σ)).filterMap (·.error) = [] := by
    rw [List.filterMap_map]
    exact List.filterMap_eq_nil_iff.mpr fun _ _ => rfl
  rw [delivered, hanswers, hafter]
  simp only [herrors, List.flatMap_map, houtput]

/-- The way of delivery does not matter. A template becomes what its bytes become in one chunk,
which is what the compiler makes of them; any other file comes out as it came in. -/
theorem delivered_opened (compile : Compiler σ) (compiler : σ) (path : String)
    (o : TransformOptions) (config : BuildConfig) (v : Delivery ι) (data : Bytes)
    (h : v.Brings data) :
    let file := (opened path o config).1
    let current := (opened path o config).2.1
    let seen := file.delivered compile compiler current v
    (Path.isEligible path o.resolveExtensions = true →
      seen = file.delivered compile compiler current (.whole data : Delivery ι) ∧
        seen = (ended path (compilation compile path compiler current data)).seen) ∧
    (Path.isEligible path o.resolveExtensions = false → seen = ⟨data, [], file⟩) := by
  intro file current seen
  constructor
  · intro he
    have hopen := opened_template config he
    simp only [seen, file, current, hopen]
    have hseen (v : Delivery ι) (hv : v.Brings data) :=
      delivered_buffering (t := ⟨path, .buffering, []⟩) compile rfl rfl compiler
        (config.merge o) hv
    exact ⟨(hseen v h).trans (hseen (.whole data) (Delivery.whole_brings data)).symm, hseen v h⟩
  · intro he
    have hopen := opened_other config he
    simp only [seen, file, current, hopen]
    exact delivered_passthrough rfl compiler config h

/-- A letter cut in two, a byte that is no text, and a stream that gives one byte at a time. -/
theorem delivered_opened_short :
    let compile := Compiler.template ⟨fun _ source => .ok source, fun _ => none⟩
    let o : TransformOptions := { minify := some (some (.flag false)) }
    let stream := ByteStream.portioned (min 1) (Nat.min_le_right 1) (by omega)
    let v : Delivery Bytes := ⟨[[0x61], [], [0xC3]], .stream stream 4 [0xA9, 0xFF]⟩
    let data : Bytes := [0x61, 0xC3, 0xA9, 0xFF]
    let template := opened "a.twig" o {}
    let other := opened "a.css" o {}
    let text := "\nmodule.exports = Twig.twig(\x7b id: \"a.twig\", data:[\x7b\"type\":\"raw\"," ++
      "\"value\":\"a\\u00e9\\ufffd\"\x7d], precompiled: true, allowInlineIncludes: true \x7d);"
    v.Brings data ∧ Path.isEligible "a.twig" o.resolveExtensions = true ∧
      Path.isEligible "a.css" o.resolveExtensions = false ∧
      template.1.delivered compile [] template.2.1 v =
        ⟨encodeUtf8 text.toList, [], ⟨"a.twig", .finished, []⟩⟩ ∧
      other.1.delivered compile [] other.2.1 v = ⟨data, [], ⟨"a.css", .passthrough, []⟩⟩ := by
  intro compile o stream v data template other text
  have hv : v.Brings data := ⟨[0xA9, 0xFF], ⟨by decide, rfl⟩, rfl⟩
  have ht : Path.isEligible "a.twig" o.resolveExtensions = true := by decide +kernel
  have ho : Path.isEligible "a.css" o.resolveExtensions = false := by decide +kernel
  have hended : (ended "a.twig" (compilation compile "a.twig" [] template.2.1 data)).seen =
      ⟨encodeUtf8 text.toList, [], ⟨"a.twig", .finished, []⟩⟩ := by decide +kernel
  have hseen := ((delivered_opened compile [] "a.twig" o {} v data hv).1 ht).2
  have hother := (delivered_opened compile [] "a.css" o {} v data hv).2 ho
  refine ⟨hv, ht, ho, hseen.trans hended, hother.trans ?_⟩
  rw [opened_other _ ho]

end FileTransform

end Stencil
