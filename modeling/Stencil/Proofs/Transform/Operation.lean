import Stencil.Transform

/-!
What operations do to the transform of a file, by its state. While a template is collected, its
chunks are only added up, and its end compiles all of them at once; so only their bytes matter. A
file that was ended or given up refuses everything but to be given up again.
-/
namespace Stencil

open Text Options

/-- The pieces of a stream are all that was left of it. -/
theorem ByteStream.flatten_pieces (stream : ByteStream ι) {size : Int} (hsize : size ≠ 0) (s : ι) :
    (stream.pieces size s).flatten = stream.left s := by
  fun_induction stream.pieces size s with
  | case1 s hnil => exact (stream.left_of_read size s hsize hnil).symm
  | case2 s hnil ih => rw [List.flatten_cons, ih, stream.read_append]

def TransformState.IsSettled : TransformState → Prop
  | .finished | .failed | .aborted => True
  | _ => False

namespace Operation

/-- The operation only adds a chunk. -/
def IsWrite : Operation ι → Prop
  | .write _ => True
  | _ => False

/-- The operation ends the input. -/
def Ends : Operation ι → Prop
  | .finish | .iterate _ | .stream .. => True
  | _ => False

/-- The chunks that an operation brings. -/
def given : Operation ι → List Bytes
  | .write chunk => [chunk]
  | .iterate chunks => chunks
  | .stream source size start => source.pieces size start
  | _ => []

/-- What a file is asked first when it is to take chunks and then the end. -/
def firstRequest : List Bytes → Request
  | [] => .finish
  | _ :: _ => .write

theorem ends_of {operation : Operation ι} (hw : ¬operation.IsWrite) (ha : operation ≠ .abort) :
    operation.Ends := by
  cases operation with
  | write => exact absurd trivial hw
  | abort => exact absurd rfl ha
  | _ => trivial

end Operation

namespace FileTransform

variable {compile : Compiler σ} {t : FileTransform}

theorem opened_template {path : String} {o : TransformOptions} (config : BuildConfig)
    (h : Path.isEligible path o.resolveExtensions = true) :
    opened path o config =
      (⟨path, .buffering, []⟩, config.merge o, [(config.merge o).mergedRecord]) := by
  rw [opened, if_pos h]

theorem opened_other {path : String} {o : TransformOptions} (config : BuildConfig)
    (h : Path.isEligible path o.resolveExtensions = false) :
    opened path o config = (⟨path, .passthrough, []⟩, config, [passingRecord path]) := by
  rw [opened, if_neg (by simp [h])]

/-- Where the end of a collected template leads, by what the compiler made of it. -/
def ended (path : String) (compiled : Compiled σ) : Ran σ :=
  match compiled.result with
  | .ok fragment =>
    ⟨⟨path, .finished, []⟩, compiled.compiler, compiled.records,
      [encodeUtf8 (Module.wrap fragment)], none⟩
  | .error (.error e) =>
    ⟨⟨path, .failed, []⟩, compiled.compiler,
      compiled.records ++ [failedRecord path (e.withName path)], [],
      some (.compilation (.error (e.withName path)))⟩
  | .error (.breakdown b) =>
    ⟨⟨path, .buffering, []⟩, compiled.compiler, compiled.records, [],
      some (.compilation (.breakdown b))⟩

/-- The compilation of a template of some bytes. -/
def compilation (compile : Compiler σ) (path : String) (compiler : σ) (config : BuildConfig)
    (bytes : Bytes) : Compiled σ :=
  compile compiler (Path.identifier path config.relativePath config.replacePaths)
    (decodeUtf8 bytes) config path

/-- The chunks of a template matter by their bytes only. -/
theorem run_buffering (compile : Compiler σ) (h : t.state = .buffering) (compiler : σ)
    (config : BuildConfig) (chunks : List Bytes) :
    t.run compile compiler config chunks =
      ended t.path (compilation compile t.path compiler config
        (t.chunks.reverse.flatten ++ chunks.flatten)) := by
  induction chunks generalizing t with
  | nil =>
    rw [run, finish]
    simp only [h, source, List.flatten_nil, List.append_nil, ended, compilation]
    cases (compile _ _ _ _ _).result with
    | ok fragment => rfl
    | error failure => cases failure <;> rfl
  | cons chunk rest ih =>
    rw [run, write]
    simp only [h, List.nil_append]
    rw [ih rfl]
    simp

theorem run_passthrough (h : t.state = .passthrough) (compiler : σ) (config : BuildConfig)
    (chunks : List Bytes) :
    t.run compile compiler config chunks = ⟨t, compiler, [], chunks, none⟩ := by
  induction chunks with
  | nil => simp [run, finish, h]
  | cons chunk rest ih => simp [run, write, h, ih]

theorem run_settled (h : t.state.IsSettled) (compiler : σ) (config : BuildConfig)
    (chunks : List Bytes) :
    t.run compile compiler config chunks =
      ⟨t, compiler, [], [], some (.misuse (Operation.firstRequest chunks) t.state)⟩ := by
  cases chunks with
  | nil =>
    cases hs : t.state <;>
      simp [run, finish, hs, TransformState.IsSettled, Operation.firstRequest] at h ⊢
  | cons chunk rest =>
    cases hs : t.state <;>
      simp [run, write, hs, TransformState.IsSettled, Operation.firstRequest] at h ⊢

theorem perform_end {operation : Operation ι} (h : operation.Ends) (compiler : σ)
    (config : BuildConfig) :
    t.perform compile compiler config operation =
      t.run compile compiler config operation.given := by
  cases operation with
  | write | abort => cases h
  | _ => rfl

/-- The end of a collected template compiles all that was written. -/
theorem perform_ended (h : t.state = .buffering) {operation : Operation ι} (he : operation.Ends)
    (compiler : σ) (config : BuildConfig) :
    t.perform compile compiler config operation =
      ended t.path (compilation compile t.path compiler config
        (t.chunks.reverse.flatten ++ operation.given.flatten)) := by
  rw [perform_end he, run_buffering compile h]

theorem perform_write (h : t.state = .buffering) {operation : Operation ι}
    (hw : operation.IsWrite) (compiler : σ) (config : BuildConfig) :
    t.perform compile compiler config operation =
      ⟨{ t with chunks := operation.given.reverse ++ t.chunks }, compiler, [], [], none⟩ := by
  cases operation with
  | write chunk => simp [perform, write, h, Operation.given]
  | _ => cases hw

theorem perform_passthrough (h : t.state = .passthrough) {operation : Operation ι}
    (ha : operation ≠ .abort) (compiler : σ) (config : BuildConfig) :
    t.perform compile compiler config operation =
      ⟨t, compiler, [], operation.given, none⟩ := by
  cases operation with
  | write chunk => simp [perform, write, h, Operation.given]
  | abort => exact absurd rfl ha
  | _ => exact run_passthrough h compiler config _

/-- A file that was ended or given up refuses every request, and nothing else happens. -/
theorem perform_settled (compile : Compiler σ) (h : t.state.IsSettled)
    {operation : Operation ι} (ha : operation ≠ .abort) (compiler : σ) (config : BuildConfig) :
    t.perform compile compiler config operation =
      ⟨t, compiler, [], [], some (.misuse (Operation.firstRequest operation.given) t.state)⟩ := by
  cases operation with
  | write chunk =>
    cases hs : t.state <;>
      simp [perform, write, hs, TransformState.IsSettled, Operation.given,
        Operation.firstRequest] at h ⊢
  | abort => exact absurd rfl ha
  | _ => exact run_settled h compiler config _

/-- Where no collected template is ended, neither the compiler nor the configuration matters, and
nothing is reported. -/
theorem perform_otherwise {operation : Operation ι}
    (h : ¬(t.state = .buffering ∧ operation.Ends)) :
    ∃ t' emitted error, ∀ (σ : Type) (compile : Compiler σ) (compiler : σ) (config : BuildConfig),
      t.perform compile compiler config operation = ⟨t', compiler, [], emitted, error⟩ := by
  by_cases ha : operation = .abort
  · subst ha
    exact ⟨t.abort, [], none, fun _ _ _ _ => rfl⟩
  cases hs : t.state with
  | passthrough => exact ⟨_, _, _, fun _ _ => perform_passthrough hs ha⟩
  | buffering =>
    have hw : operation.IsWrite :=
      Classical.byContradiction fun hw => h ⟨hs, Operation.ends_of hw ha⟩
    exact ⟨_, _, _, fun _ _ => perform_write hs hw⟩
  | _ =>
    have hsettled : t.state.IsSettled := by
      rw [hs]
      trivial
    exact ⟨_, _, _, fun _ compile => perform_settled compile hsettled ha⟩

/-- What comes of operations, one after the other, each under the configuration of its moment. -/
def answers (compile : Compiler σ) (t : FileTransform) (compiler : σ) :
    List (Operation ι × BuildConfig) → List (Ran σ)
  | [] => []
  | (operation, config) :: rest =>
    let r := t.perform compile compiler config operation
    r :: answers compile r.transform r.compiler rest

/-- The file and the compiler after operations. -/
def afterAll (compile : Compiler σ) (t : FileTransform) (compiler : σ) :
    List (Operation ι × BuildConfig) → FileTransform × σ
  | [] => (t, compiler)
  | (operation, config) :: rest =>
    let r := t.perform compile compiler config operation
    afterAll compile r.transform r.compiler rest

theorem answers_append (compiler : σ) (xs ys : List (Operation ι × BuildConfig)) :
    answers compile t compiler (xs ++ ys) =
      let middle := afterAll compile t compiler xs
      answers compile t compiler xs ++ answers compile middle.1 middle.2 ys := by
  induction xs generalizing t compiler with
  | nil => rfl
  | cons x xs ih => simp [answers, afterAll, ih]

theorem afterAll_append (compiler : σ) (xs ys : List (Operation ι × BuildConfig)) :
    afterAll compile t compiler (xs ++ ys) =
      let middle := afterAll compile t compiler xs
      afterAll compile middle.1 middle.2 ys := by
  induction xs generalizing t compiler with
  | nil => rfl
  | cons x xs ih => simp [afterAll, ih]

/-- While chunks are only written, they are added up, and nothing else happens. -/
theorem afterAll_writes (compile : Compiler σ) (h : t.state = .buffering) (compiler : σ)
    (operations : List (Operation ι × BuildConfig)) (hw : ∀ p ∈ operations, p.1.IsWrite) :
    afterAll compile t compiler operations =
      ({ t with chunks := (operations.flatMap (·.1.given)).reverse ++ t.chunks }, compiler) := by
  induction operations generalizing t with
  | nil => rfl
  | cons p rest ih =>
    obtain ⟨hp, hrest⟩ := List.forall_mem_cons.mp hw
    have hnext := ih (t := { t with chunks := p.1.given.reverse ++ t.chunks }) h hrest
    rw [afterAll, perform_write h hp]
    simp [hnext]

theorem answers_writes (compile : Compiler σ) (h : t.state = .buffering) (compiler : σ)
    (operations : List (Operation ι × BuildConfig)) (hw : ∀ p ∈ operations, p.1.IsWrite)
    (r : Ran σ) (hr : r ∈ answers compile t compiler operations) :
    r.emitted = [] ∧ r.error = none ∧ r.records = [] := by
  induction operations generalizing t with
  | nil => cases hr
  | cons p rest ih =>
    obtain ⟨hp, hrest⟩ := List.forall_mem_cons.mp hw
    rw [answers, perform_write h hp] at hr
    rcases List.mem_cons.mp hr with rfl | hr
    · exact ⟨rfl, rfl, rfl⟩
    · exact ih (t := { t with chunks := p.1.given.reverse ++ t.chunks }) h hrest hr

end FileTransform

end Stencil
