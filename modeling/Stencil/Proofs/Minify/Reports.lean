import Mathlib.Data.List.Nodup
import Stencil.Minify
import Stencil.Proofs.Options.Known

/-!
What a minifier reports over any number of jobs. The switches that it has reported are those
without an effect that some job so far had on, also a job that the engine refused. So each of them
is reported once, in the first job that has it on; and what was reported makes no difference to
the markup.
-/
namespace Stencil.Minify

open Options

structure Job where
  options : MinifyOptions
  markup : List Char

/-- What comes of jobs, one after the other, once some switches have been reported. -/
def minifiedAll (engine : MarkupEngine) (reported : List Switch) : List Job → List Minified
  | [] => []
  | j :: rest =>
    let m := minified engine reported j.options j.markup
    m :: minifiedAll engine m.reported rest

/-- The switches to report in a job after others: those without an effect that it has on, and none
of the others had, nor were reported before all of them. -/
def firstIn (reported : List Switch) (earlier : List MinifyOptions) (o : MinifyOptions) :
    List Switch :=
  ineffective.filter fun s =>
    o.isOn s && !reported.contains s && earlier.all fun e => !e.isOn s

/-- Reports of jobs with some settings: no record stands in them twice, and a job reports, in the
order of the switches without an effect, those that it has on and no earlier job had. -/
structure ReportedOnce (options : List MinifyOptions) (reports : List (List LogRecord)) : Prop where
  length : reports.length = options.length
  nodup : reports.flatten.Nodup
  first : ∀ (k : Nat) (o : MinifyOptions), options[k]? = some o →
    reports[k]? = some ((ineffective.filter fun s =>
      o.isOn s && (options.take k).all fun e => !e.isOn s).map ineffectiveRecord)

variable {engine : MarkupEngine} {reported : List Switch} {s : Switch}

theorem mem_newlyIneffective {o : MinifyOptions} :
    s ∈ newlyIneffective reported o ↔ s ∈ ineffective ∧ o.isOn s ∧ s ∉ reported := by
  simp [newlyIneffective]

/-- Different switches are reported differently. -/
theorem ineffectiveRecord_injective : Function.Injective ineffectiveRecord := by
  have hall : (Switch.all.map ineffectiveRecord).Nodup := by decide +kernel
  exact fun s t h => List.inj_on_of_nodup_map hall (mem_all s) (mem_all t) h

/-- One job settles what is reported in it and of what it has on; later jobs go on from there. -/
theorem firstIn_cons (o : MinifyOptions) (earlier : List MinifyOptions) (last : MinifyOptions) :
    firstIn (reported ++ newlyIneffective reported o) earlier last =
      firstIn reported (o :: earlier) last := by
  refine List.filter_congr fun s hs => ?_
  have hnew : (reported ++ newlyIneffective reported o).contains s =
      (reported.contains s || o.isOn s) := by
    rw [Bool.eq_iff_iff]
    simp only [List.contains_iff_mem, List.mem_append, mem_newlyIneffective, Bool.or_eq_true]
    tauto
  rw [hnew, List.all_cons]
  cases last.isOn s <;> cases reported.contains s <;> simp

/-- A job reports what it is the first to have on. -/
theorem records_minifiedAll (jobs : List Job) (k : Nat) (j : Job) (hj : jobs[k]? = some j) :
    ((minifiedAll engine reported jobs).map (·.records))[k]? =
      some ((firstIn reported ((jobs.take k).map (·.options)) j.options).map
        ineffectiveRecord) := by
  induction jobs generalizing reported k with
  | nil => cases hj
  | cons first rest ih =>
    cases k with
    | zero =>
      cases hj
      simp [minifiedAll, minified, newlyIneffective, firstIn]
    | succ k =>
      rw [minifiedAll, List.map_cons, List.getElem?_cons_succ, ih k hj, List.take_succ_cons,
        List.map_cons, minified, firstIn_cons]

/-- Over all jobs, nothing is reported twice, nor again. -/
theorem nodup_minifiedAll (jobs : List Job) :
    ((minifiedAll engine reported jobs).flatMap (·.records)).Nodup ∧
      ∀ s ∈ reported, ineffectiveRecord s ∉
        (minifiedAll engine reported jobs).flatMap (·.records) := by
  induction jobs generalizing reported with
  | nil => exact ⟨List.nodup_nil, fun s _ => List.not_mem_nil⟩
  | cons j rest ih =>
    rw [minifiedAll, List.flatMap_cons]
    obtain ⟨hrest, hnot⟩ := @ih (minified engine reported j.options j.markup).reported
    have hnow : (minified engine reported j.options j.markup).records.Nodup := by
      refine List.Nodup.map ineffectiveRecord_injective (List.Nodup.filter _ ?_)
      decide
    refine ⟨List.nodup_append.mpr ⟨hnow, hrest, ?_⟩, ?_⟩
    · rintro r hr r' hr' rfl
      obtain ⟨s, hs, rfl⟩ := List.mem_map.mp hr
      exact hnot s (List.mem_append_right _ hs) hr'
    · intro s hs hmem
      rcases List.mem_append.mp hmem with hmem | hmem
      · obtain ⟨t, ht, heq⟩ := List.mem_map.mp hmem
        obtain rfl := ineffectiveRecord_injective heq
        exact (mem_newlyIneffective.mp ht).2.2 hs
      · exact hnot s (List.mem_append_left _ hs) hmem

theorem reportedOnce_minifiedAll (engine : MarkupEngine) (jobs : List Job) :
    ReportedOnce (jobs.map (·.options)) ((minifiedAll engine [] jobs).map (·.records)) := by
  have hlength (reported : List Switch) :
      (minifiedAll engine reported jobs).length = jobs.length := by
    induction jobs generalizing reported with
    | nil => rfl
    | cons j rest ih => simp [minifiedAll, ih]
  refine ⟨by simp [hlength], ?_, ?_⟩
  · rw [← List.flatMap_def]
    exact (nodup_minifiedAll jobs).1
  · intro k o ho
    rw [List.getElem?_map] at ho
    obtain ⟨j, hj, rfl⟩ := Option.map_eq_some_iff.mp ho
    rw [records_minifiedAll jobs k j hj, ← List.map_take]
    simp [firstIn]

/-- What was reported before makes no difference to the markup, nor to the refusal of it. -/
theorem result_minifiedAll (engine : MarkupEngine) (reported : List Switch) (jobs : List Job) :
    (minifiedAll engine reported jobs).map (·.result) =
      jobs.map fun j => (minified engine [] j.options j.markup).result := by
  induction jobs generalizing reported with
  | nil => rfl
  | cons j rest ih =>
    rw [minifiedAll, List.map_cons, List.map_cons, ih]
    rfl

end Stencil.Minify
