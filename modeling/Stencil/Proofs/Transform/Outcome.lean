import Mathlib.Data.List.Induction
import Stencil.Proofs.Transform.Operation

/-!
The life of a template, whatever is asked of it and in whatever order. It is compiled at most once,
by the first end that is reached before it is given up, and what comes out is nothing or one chunk.
A failed compilation is reported once and for the file. After that it refuses everything.
-/
namespace Stencil

open Text Options

structure Call where
  identifier : Identifier
  source : List Char
  config : BuildConfig
  name : String
  records : List LogRecord
  result : Except CompileFailure (List Char)

namespace Call

def output (c : Call) : List Bytes :=
  match c.result with
  | .ok fragment => [encodeUtf8 (Module.wrap fragment)]
  | .error _ => []

/-- The records that a call for a file leads to: its own, and one of its failure. -/
def reported (c : Call) (path : String) : List LogRecord :=
  match c.result with
  | .error (.error e) => c.records ++ [FileTransform.failedRecord path (e.withName path)]
  | _ => c.records

end Call

namespace Compiler

/-- A compiler that keeps the calls of another, latest last, and does what that one does. -/
def recorded (compile : Compiler σ) : Compiler (σ × List Call) :=
  fun (compiler, calls) identifier source config name =>
    let c := compile compiler identifier source config name
    ⟨(c.compiler, calls ++ [⟨identifier, source, config, name, c.records, c.result⟩]), c.records,
      c.result⟩

/-- The compiler gives a result or an error of the template, and nothing else. -/
def Definite (compile : Compiler σ) : Prop :=
  ∀ compiler identifier source config name b,
    (compile compiler identifier source config name).result ≠ .error (.breakdown b)

end Compiler

namespace FileTransform

variable {compile : Compiler σ} {t : FileTransform}

/-- An answer that closes a file: it tells the result of a call, and the file is finished or failed.
An error carries the name it came with, or else the path of the file. -/
def Closes (path : String) (call : Call) (r : Ran (σ × List Call)) : Prop :=
  match call.result with
  | .ok fragment =>
    r.emitted = [encodeUtf8 (Module.wrap fragment)] ∧ r.error = none ∧
      r.transform.state = .finished
  | .error (.error e) =>
    r.emitted = [] ∧ r.error = some (.compilation (.error (e.withName path))) ∧
      (e.withName path).name = some (e.name.getD path) ∧
      r.records = call.records ++ [failedRecord path (e.withName path)] ∧
      r.transform.state = .failed
  | .error (.breakdown _) => False

/-- What a file has come to after operations on it that were not all writes: it takes no more input,
and its calls account for all that it passed on and reported. -/
structure Lived (path : String) (rs : List (Ran (σ × List Call)))
    (now : FileTransform × (σ × List Call)) : Prop where
  path_eq : now.1.path = path
  settled : now.1.state.IsSettled
  once : now.2.2.length ≤ 1
  emitted : rs.flatMap (·.emitted) = now.2.2.flatMap Call.output
  records : rs.flatMap (·.records) = now.2.2.flatMap (Call.reported · path)

/-- The first end of a template makes one call, and its answer closes the file. -/
theorem closes_end (hd : compile.Definite) (h : t.state = .buffering) {operation : Operation ι}
    (he : operation.Ends) (compiler : σ) (config : BuildConfig) :
    let r := t.perform compile.recorded (compiler, []) config operation
    ∃ call, r.compiler.2 = [call] ∧ call.name = t.path ∧ call.config = config ∧
      call.source = decodeUtf8 (t.chunks.reverse.flatten ++ operation.given.flatten) ∧
      Closes t.path call r ∧ Lived t.path [r] (r.transform, r.compiler) := by
  intro r
  let bytes := t.chunks.reverse.flatten ++ operation.given.flatten
  let c := compilation compile t.path compiler config bytes
  let call : Call :=
    ⟨Path.identifier t.path config.relativePath config.replacePaths, decodeUtf8 bytes, config,
      t.path, c.records, c.result⟩
  have hr : r = ended t.path ⟨(c.compiler, [call]), c.records, c.result⟩ := by
    simp only [r]
    rw [perform_ended h he]
    rfl
  have hnot := hd compiler (Path.identifier t.path config.relativePath config.replacePaths)
    (decodeUtf8 bytes) config t.path
  change ∀ b, c.result ≠ .error (.breakdown b) at hnot
  have hcall : r.compiler.2 = [call] := by
    rw [hr, ended]
    cases c.result with
    | ok fragment => rfl
    | error failure => cases failure <;> rfl
  refine ⟨call, hcall, rfl, rfl, rfl, ?_, ?_⟩
  · rw [hr]
    cases hc : c.result with
    | ok fragment => simp [Closes, call, hc, ended]
    | error failure =>
      cases failure with
      | error e => cases hn : e.name <;> simp [Closes, call, hc, ended, CompileError.withName, hn]
      | breakdown b => exact absurd hc (hnot b)
  · refine ⟨?_, ?_, by simp [hcall], ?_, ?_⟩ <;> rw [hr]
    all_goals
      cases hc : c.result with
      | ok fragment => simp [ended, call, hc, Call.output, Call.reported, TransformState.IsSettled]
      | error failure =>
        cases failure with
        | error e => simp [ended, call, hc, Call.output, Call.reported, TransformState.IsSettled]
        | breakdown b => exact absurd hc (hnot b)

/-- Nothing that is asked of a file later adds to what it has come to. -/
theorem Lived.next {path : String} {rs : List (Ran (σ × List Call))}
    {now : FileTransform × (σ × List Call)} (h : Lived path rs now) (operation : Operation ι)
    (config : BuildConfig) :
    let r := now.1.perform compile.recorded now.2 config operation
    Lived path (rs ++ [r]) (r.transform, r.compiler) := by
  intro r
  by_cases ha : operation = .abort
  · subst ha
    exact ⟨h.path_eq, trivial, h.once, by simp [r, perform, h.emitted],
      by simp [r, perform, h.records]⟩
  · have hr := perform_settled compile.recorded h.settled ha now.2 config
    simp only [r, hr]
    exact ⟨h.path_eq, h.settled, h.once, by simp [h.emitted], by simp [h.records]⟩

/-- A template is settled by its first end, or by being given up before. -/
theorem lived_first (hd : compile.Definite) (h : t.state = .buffering) {operation : Operation ι}
    (hw : ¬operation.IsWrite) (compiler : σ) (config : BuildConfig) :
    let r := t.perform compile.recorded (compiler, []) config operation
    Lived t.path [r] (r.transform, r.compiler) := by
  by_cases ha : operation = .abort
  · subst ha
    exact ⟨rfl, trivial, Nat.zero_le 1, rfl, rfl⟩
  · obtain ⟨-, -, -, -, -, -, hl⟩ := closes_end hd h (Operation.ends_of hw ha) compiler config
    exact hl

/-- The first operation that is no write closes the file, and the writes before it say nothing. -/
theorem lived_answers (hd : compile.Definite) (h : t.state = .buffering) (compiler : σ)
    (operations : List (Operation ι × BuildConfig)) (hw : ¬∀ p ∈ operations, p.1.IsWrite) :
    Lived t.path (answers compile.recorded t (compiler, []) operations)
      (afterAll compile.recorded t (compiler, []) operations) := by
  -- from the end, so that the first operation that is no write is found with all writes before it
  induction operations using List.reverseRecOn with
  | nil => exact absurd (fun p hp => by cases hp) hw
  | append_singleton before p ih =>
    rw [answers_append, afterAll_append]
    by_cases hb : ∀ q ∈ before, q.1.IsWrite
    · have hp : ¬p.1.IsWrite := fun hp => hw (List.forall_mem_append.mpr ⟨hb, by simpa using hp⟩)
      have hquiet := answers_writes compile.recorded h (compiler, []) before hb
      rw [afterAll_writes _ h _ before hb]
      have hfirst := lived_first (t := { t with
        chunks := (before.flatMap (·.1.given)).reverse ++ t.chunks }) hd h hp compiler p.2
      refine ⟨hfirst.path_eq, hfirst.settled, hfirst.once, ?_, ?_⟩
      · rw [List.flatMap_append, List.flatMap_eq_nil_iff.mpr fun r hr => (hquiet r hr).1]
        exact hfirst.emitted
      · rw [List.flatMap_append, List.flatMap_eq_nil_iff.mpr fun r hr => (hquiet r hr).2.2]
        exact hfirst.records
    · exact (ih hb).next p.1 p.2

/-- A file whose call failed passed nothing on, and reported one error besides the compiler's. -/
theorem Lived.failed {path : String} {rs : List (Ran (σ × List Call))}
    {now : FileTransform × (σ × List Call)} (h : Lived path rs now) {call : Call}
    (hcall : call ∈ now.2.2) {e : CompileError} (he : call.result = .error (.error e)) :
    rs.flatMap (·.emitted) = [] ∧
      (rs.flatMap (·.records)).countP (·.level = .error) =
        call.records.countP (·.level = .error) + 1 := by
  have hcalls : now.2.2 = [call] := by
    have honce := h.once
    match hm : now.2.2 with
    | [] => simp [hm] at hcall
    | [c] =>
      rw [hm, List.mem_singleton] at hcall
      rw [hcall]
    | _ :: _ :: _ => simp [hm] at honce
  rw [h.emitted, h.records, hcalls]
  simp [Call.output, Call.reported, he, failedRecord]

/-- A template is all or nothing, after any operations: what it came to so far, and what comes of
the next operation, whatever that is. -/
structure AllOrNothing (compile : Compiler σ) (file : FileTransform) (compiler : σ)
    (operations : List (Operation ι × BuildConfig)) : Prop where
  /-- It was compiled at most once. -/
  once : (afterAll compile.recorded file (compiler, []) operations).2.2.length ≤ 1
  /-- Nothing came out but the chunk of that call. -/
  emitted :
    (answers compile.recorded file (compiler, []) operations).flatMap (·.emitted) =
      (afterAll compile.recorded file (compiler, []) operations).2.2.flatMap Call.output
  /-- If the call failed, nothing came out, and one error was reported besides those of the
  compiler. -/
  failure :
    ∀ call ∈ (afterAll compile.recorded file (compiler, []) operations).2.2,
      ∀ e, call.result = .error (.error e) →
        let rs := answers compile.recorded file (compiler, []) operations
        rs.flatMap (·.emitted) = [] ∧
          (rs.flatMap (·.records)).countP (·.level = .error) =
            call.records.countP (·.level = .error) + 1
  /-- As long as there were only writes, another one says nothing, giving up says nothing, and an
  end makes the only call, of all that was written, and closes the file. -/
  collecting : (∀ p ∈ operations, p.1.IsWrite) → ∀ (operation : Operation ι) config,
    let now := afterAll compile.recorded file (compiler, []) operations
    let r := now.1.perform compile.recorded now.2 config operation
    (operation.IsWrite → r.emitted = [] ∧ r.error = none ∧ r.records = [] ∧ r.compiler.2 = [] ∧
      r.transform.state = .buffering) ∧
    (operation = .abort → r.emitted = [] ∧ r.error = none ∧ r.records = [] ∧ r.compiler.2 = [] ∧
      r.transform.state = .aborted) ∧
    (operation.Ends → ∃ call, r.compiler.2 = [call] ∧ call.name = file.path ∧
      call.config = config ∧
      call.source =
        decodeUtf8 ((operations.flatMap (·.1.given)).flatten ++ operation.given.flatten) ∧
      Closes file.path call r)
  /-- After an end or after it was given up, every request is refused and leaves the file as it was;
  it can still be given up. Nothing comes out, is reported or is compiled. -/
  settled : (¬∀ p ∈ operations, p.1.IsWrite) → ∀ (operation : Operation ι) config,
    let now := afterAll compile.recorded file (compiler, []) operations
    let r := now.1.perform compile.recorded now.2 config operation
    r.emitted = [] ∧ r.records = [] ∧ r.compiler = now.2 ∧
    (operation = .abort → r.error = none ∧ r.transform.state = .aborted) ∧
    (operation ≠ .abort →
      (∃ request, r.error = some (.misuse request now.1.state)) ∧ r.transform = now.1)

theorem allOrNothing_writes (hd : compile.Definite) (h : t.state = .buffering) (hc : t.chunks = [])
    (compiler : σ) (operations : List (Operation ι × BuildConfig))
    (hw : ∀ p ∈ operations, p.1.IsWrite) : AllOrNothing compile t compiler operations := by
  let held : FileTransform := { t with chunks := (operations.flatMap (·.1.given)).reverse }
  have hafter : afterAll compile.recorded t (compiler, []) operations =
      (held, (compiler, [])) := by
    rw [afterAll_writes _ h _ operations hw, hc, List.append_nil]
  have hquiet := answers_writes compile.recorded h (compiler, []) operations hw
  constructor
  case once => simp [hafter]
  case emitted =>
    rw [hafter, List.flatMap_eq_nil_iff.mpr fun r hr => (hquiet r hr).1]
    rfl
  case failure => simp [hafter]
  case settled => exact fun hn => absurd hw hn
  case collecting =>
    intro _ operation config now r
    have hr : r = held.perform compile.recorded (compiler, []) config operation := by
      simp only [r, now, hafter]
    refine ⟨?_, ?_, ?_⟩
    · intro ho
      rw [hr, perform_write (t := held) h ho]
      exact ⟨rfl, rfl, rfl, rfl, h⟩
    · rintro rfl
      rw [hr]
      exact ⟨rfl, rfl, rfl, rfl, rfl⟩
    · intro ho
      obtain ⟨call, hcall, hname, hconfig, hsource, hcloses, -⟩ :=
        closes_end (t := held) hd h ho compiler config
      rw [List.reverse_reverse] at hsource
      rw [hr]
      exact ⟨call, hcall, hname, hconfig, hsource, hcloses⟩

theorem allOrNothing_settled (hd : compile.Definite) (h : t.state = .buffering) (compiler : σ)
    (operations : List (Operation ι × BuildConfig)) (hw : ¬∀ p ∈ operations, p.1.IsWrite) :
    AllOrNothing compile t compiler operations := by
  have hl := lived_answers hd h compiler operations hw
  constructor
  case once => exact hl.once
  case emitted => exact hl.emitted
  case failure => exact fun call hcall e he => hl.failed hcall he
  case collecting => exact fun hall => absurd hall hw
  case settled =>
    intro _ operation config now r
    by_cases ha : operation = .abort
    · subst ha
      exact ⟨rfl, rfl, rfl, fun _ => ⟨rfl, rfl⟩, fun hn => absurd rfl hn⟩
    · have hr := perform_settled compile.recorded hl.settled ha now.2 config
      change r = _ at hr
      rw [hr]
      exact ⟨rfl, rfl, rfl, fun habort => absurd habort ha, fun _ => ⟨⟨_, rfl⟩, rfl⟩⟩

/-- Every template is all or nothing, with every compiler that gives a result or an error of the
template. -/
theorem allOrNothing_opened (compile : Compiler σ) (hd : compile.Definite) (compiler : σ)
    (path : String) (o : TransformOptions) (config : BuildConfig)
    (he : Path.isEligible path o.resolveExtensions = true)
    (operations : List (Operation ι × BuildConfig)) :
    AllOrNothing compile (opened path o config).1 compiler operations := by
  rw [opened_template config he]
  by_cases hw : ∀ p ∈ operations, p.1.IsWrite
  · exact allOrNothing_writes hd rfl rfl compiler operations hw
  · exact allOrNothing_settled hd rfl compiler operations hw

/-- An empty template is refused by the compiler, then refuses a chunk, is given up, and refuses its
end. -/
theorem allOrNothing_opened_empty :
    let refusal : CompileError := ⟨.compile, "empty", none, none⟩
    let compile : Compiler Unit := fun _ _ source _ _ =>
      ⟨(), [], if source.isEmpty then .error (.error refusal) else .ok source⟩
    let file := (opened "a.twig" {} {}).1
    let operations : List (Operation Bytes × BuildConfig) :=
      [(.write [], {}), (.iterate [[]], {}), (.write [0x61], {}), (.abort, {}), (.finish, {})]
    compile.Definite ∧
      Path.isEligible "a.twig" ({} : TransformOptions).resolveExtensions = true ∧
      AllOrNothing compile file () operations ∧
      (answers compile.recorded file ((), []) operations).map (·.error) =
        [none, some (.compilation (.error (refusal.withName "a.twig"))),
          some (.misuse .write .failed), none, some (.misuse .finish .aborted)] := by
  intro refusal compile file operations
  have hd : compile.Definite := by
    intro _ _ source _ _ b
    simp only [compile]
    split <;> simp
  have he : Path.isEligible "a.twig" ({} : TransformOptions).resolveExtensions = true := by
    decide +kernel
  refine ⟨hd, he, allOrNothing_opened compile hd () "a.twig" {} {} he operations, ?_⟩
  decide +kernel

end FileTransform

end Stencil
