import Mathlib.Logic.Basic
import Stencil.Cli.Disk

/-!
What writing a file does to a disk. The file holds what is written to it, and every other file what
it held before; every path that led somewhere leads there as before, and the only new paths are
those to the file. A path that a file is created under leads to it from then on.
-/
namespace Stencil.Cli

open Text

/-- What a walk comes to before and after a name that stood for nothing stands for a file: a walk
that found the name free finds the file, and one that goes on behind the name is stopped as at a
file. -/
inductive Outgrows (new : Nat) : Except FileFault Place → Except FileFault Place → Prop
  | same {r} : Outgrows new r r
  | filled {dir name} : Outgrows new (.ok (.free dir name)) (.ok (.node new))
  | blocked : Outgrows new (.error .missing) (.error .noDirectory)

theorem outgrows_guard {new : Nat} {first : Except FileFault Unit} {r r' : Except FileFault Place}
    {path : String} (h : Outgrows new r r') :
    Outgrows new (first >>= fun _ => if path = "" then .error .missing else r)
      (first >>= fun _ => if path = "" then .error .missing else r') := by
  cases first with
  | error f => exact .same
  | ok _ =>
    by_cases hempty : path = ""
    · simp only [hempty, if_true, bind, Except.bind]
      exact .same
    · simpa only [hempty, if_false, bind, Except.bind] using h

namespace Disk

variable {d d' : Disk} {creating : Bool} {path : String} {dir n new : Nat} {content : Bytes}

/-- A path leads to something on the disk. -/
def Leads (d : Disk) (path : String) (n : Nat) : Prop := d.place false path = .ok (.node n)

theorem permit_bind_eq_ok {α : Type} {use : Use} {next : Except FileFault α} {a : α} :
    (d.permit use >>= fun _ => next) = .ok a ↔ d.refused use = none ∧ next = .ok a := by
  rw [permit]
  cases d.refused use <;> simp [bind, Except.bind]

/-! ### Names that come to stand for a file -/

/-- A disk has the names of another, but some of them may have stood for nothing and stand for a new
file now. -/
structure Grows (d d' : Disk) (new : Nat) : Prop where
  root : d'.root = d.root
  working : d'.working = d.working
  refused : d'.refused = d.refused
  enter : ∀ dir name, d'.enter dir name = d.enter dir name ∨
    d.enter dir name = .ok .nothing ∧ d'.enter dir name = .ok (.file new)

namespace Grows

theorem permit (h : d.Grows d' new) (use : Use) : d'.permit use = d.permit use := by
  rw [Disk.permit, Disk.permit, h.refused]

theorem start (h : d.Grows d' new) (dir : Nat) (path : String) :
    d'.start dir path = d.start dir path := by
  rw [Disk.start, Disk.start, h.root]

theorem look (h : d.Grows d' new) (dir : Nat) (name : String) (rest : List String) :
    d'.look creating dir name rest = d.look creating dir name rest ∨
      d.look creating dir name rest = .ok .nothing ∧
        d'.look creating dir name rest = .ok (.file new) := by
  simp only [Disk.look, h.permit]
  cases d.permit (.search dir) with
  | error f => exact .inl rfl
  | ok _ =>
    cases creating && !rest.isEmpty && rest.all (· == "") with
    | true => exact .inl rfl
    | false =>
      cases d.permit (.lookup dir name) with
      | error f => exact .inl rfl
      | ok _ => exact h.enter dir name

theorem walkWith (h : d.Grows d' new) {follow follow' : Nat → List String → Except FileFault Place}
    (hf : ∀ dir names, Outgrows new (follow dir names) (follow' dir names)) (dir : Nat)
    (names : List String) :
    Outgrows new (d.walkWith creating follow dir names)
      (d'.walkWith creating follow' dir names) := by
  induction names generalizing dir with
  | nil => exact .same
  | cons name rest ih =>
    rw [Disk.walkWith, Disk.walkWith]
    by_cases hempty : name = ""
    · rw [if_pos hempty, if_pos hempty]
      exact ih dir
    rw [if_neg hempty, if_neg hempty]
    rcases h.look dir name rest with hsame | ⟨hnothing, hfile⟩
    · rw [hsame]
      cases d.look creating dir name rest with
      | error f => exact .same
      | ok target =>
        cases target with
        | directory n => exact ih n
        | link target =>
          simp only [h.start]
          exact hf _ _
        | file | nothing => exact .same
    · rw [hnothing, hfile]
      cases rest with
      | nil => exact .filled
      | cons next rest => exact .blocked

theorem walk (h : d.Grows d' new) (links dir : Nat) (names : List String) :
    Outgrows new (d.walk creating links dir names) (d'.walk creating links dir names) := by
  induction links generalizing dir names with
  | zero => exact h.walkWith (fun _ _ => .same) dir names
  | succ links ih => exact h.walkWith ih dir names

theorem place (h : d.Grows d' new) (creating : Bool) (path : String) :
    Outgrows new (d.place creating path) (d'.place creating path) := by
  have hwalk : Outgrows new (d.walk creating maxLinks (d.start d.working path) (pathNames path))
      (d'.walk creating maxLinks (d.start d.working path) (pathNames path)) :=
    h.walk maxLinks _ _
  have hstart : d'.start d'.working path = d.start d.working path := by rw [h.start, h.working]
  rw [Disk.place, Disk.place, h.permit, hstart]
  exact outgrows_guard hwalk

/-- Paths that led somewhere lead there. -/
theorem leads (h : d.Grows d' new) (hn : d.Leads path n) : d'.Leads path n := by
  have hplace := h.place false path
  rw [Leads] at hn ⊢
  rw [hn] at hplace
  generalize d'.place false path = r at hplace
  cases hplace
  rfl

/-- Paths to anything but the new file are those that were there. -/
theorem leads_or (h : d.Grows d' new) (hn : d'.Leads path n) : n = new ∨ d.Leads path n := by
  have hplace := h.place false path
  rw [Leads] at hn ⊢
  rw [hn] at hplace
  generalize d.place false path = r at hplace ⊢
  cases hplace with
  | same => exact .inr rfl
  | filled => exact .inl rfl

end Grows

/-! ### What a walk that creates a file finds -/

theorem look_eq_ok {name : String} {rest : List String} {target : Target}
    (h : d.look creating dir name rest = .ok target) :
    d.enter dir name = .ok target ∧ d.look false dir name rest = .ok target := by
  obtain ⟨hsearch, h⟩ := permit_bind_eq_ok.mp h
  cases hslash : creating && !rest.isEmpty && rest.all (· == "") with
  | true => simp [hslash] at h
  | false =>
    rw [hslash, if_neg Bool.false_ne_true] at h
    obtain ⟨hlookup, henter⟩ := permit_bind_eq_ok.mp h
    refine ⟨henter, permit_bind_eq_ok.mpr ⟨hsearch, ?_⟩⟩
    exact permit_bind_eq_ok.mpr ⟨hlookup, henter⟩

/-- A walk that finds a name free has looked it up. -/
theorem enter_of_walkWith {follow : Nat → List String → Except FileFault Place} {name : String}
    (hf : ∀ start names, follow start names = .ok (.free dir name) →
      d.enter dir name = .ok .nothing)
    {start : Nat} {names : List String}
    (h : d.walkWith creating follow start names = .ok (.free dir name)) :
    d.enter dir name = .ok .nothing := by
  induction names generalizing start with
  | nil => cases h
  | cons first rest ih =>
    rw [walkWith] at h
    by_cases hempty : first = ""
    · rw [if_pos hempty] at h
      exact ih h
    rw [if_neg hempty] at h
    cases hlook : d.look creating start first rest with
    | error f => simp [hlook] at h
    | ok target =>
      rw [hlook] at h
      cases target with
      | directory n => exact ih h
      | file n => cases rest <;> cases h
      | link target => exact hf _ _ h
      | nothing =>
        cases rest <;> cases h
        exact (look_eq_ok hlook).1

theorem enter_of_walk {links start : Nat} {name : String} {names : List String}
    (h : d.walk creating links start names = .ok (.free dir name)) :
    d.enter dir name = .ok .nothing := by
  induction links generalizing start names with
  | zero =>
    refine enter_of_walkWith ?_ h
    rintro _ _ ⟨⟩
  | succ links ih => exact enter_of_walkWith (fun _ _ => ih) h

theorem enter_of_place {name : String} (h : d.place creating path = .ok (.free dir name)) :
    d.enter dir name = .ok .nothing := by
  obtain ⟨-, h⟩ := permit_bind_eq_ok.mp h
  split at h
  · cases h
  · exact enter_of_walk h

/-- Where a walk may create a file, it finds what is there as well. -/
theorem walkWith_find {follow follow' : Nat → List String → Except FileFault Place}
    (hf : ∀ start names r, follow start names = .ok r → follow' start names = .ok r) {start : Nat}
    {names : List String} {r : Place} (h : d.walkWith true follow start names = .ok r) :
    d.walkWith false follow' start names = .ok r := by
  induction names generalizing start with
  | nil => exact h
  | cons name rest ih =>
    rw [walkWith] at h ⊢
    by_cases hempty : name = ""
    · rw [if_pos hempty] at h ⊢
      exact ih h
    rw [if_neg hempty] at h ⊢
    cases hlook : d.look true start name rest with
    | error f => simp [hlook] at h
    | ok target =>
      rw [hlook] at h
      rw [(look_eq_ok hlook).2]
      cases target with
      | directory n => exact ih h
      | link target => exact hf _ _ _ h
      | file | nothing => exact h

theorem walk_find {links start : Nat} {names : List String} {r : Place}
    (h : d.walk true links start names = .ok r) : d.walk false links start names = .ok r := by
  induction links generalizing start names r with
  | zero => exact walkWith_find (fun _ _ _ h => h) h
  | succ links ih => exact walkWith_find (fun _ _ _ => ih) h

theorem place_find {r : Place} (h : d.place true path = .ok r) : d.place false path = .ok r := by
  obtain ⟨hpath, h⟩ := permit_bind_eq_ok.mp h
  refine permit_bind_eq_ok.mpr ⟨hpath, ?_⟩
  by_cases hempty : path = ""
  · rw [if_pos hempty] at h
    cases h
  · rw [if_neg hempty] at h ⊢
    exact walk_find h

/-! ### A file with another content -/

theorem file?_eq_some : d.file? n = some content ↔ d.nodes[n]? = some (.file content) := by
  rw [file?]
  split <;> simp_all

theorem nodes_put (h : d.file? n = some content) (bytes : Bytes) (m : Nat) :
    (d.put n bytes).nodes[m]? = if m = n then some (.file bytes) else d.nodes[m]? := by
  have hlt : n < d.nodes.length := (List.getElem?_eq_some_iff.mp (file?_eq_some.mp h)).1
  rw [put, List.getElem?_set]
  by_cases hm : m = n
  · simp [hm, hlt]
  · simp [hm, Ne.symm hm]

theorem file?_put (h : d.file? n = some content) (bytes : Bytes) (m : Nat) :
    (d.put n bytes).file? m = if m = n then some bytes else d.file? m := by
  rw [file?, nodes_put h, file?]
  by_cases hm : m = n <;> simp [hm]

theorem target_put (h : d.file? n = some content) (bytes : Bytes) (m : Nat) :
    (d.put n bytes).target m = d.target m := by
  rw [target, nodes_put h, target]
  by_cases hm : m = n
  · simp [hm, file?_eq_some.mp h]
  · rw [if_neg hm]

/-- Names stand for what they stood for. -/
theorem grows_put (h : d.file? n = some content) (bytes : Bytes) : d.Grows (d.put n bytes) n where
  root := rfl
  working := rfl
  refused := rfl
  enter dir name := by
    left
    rw [enter, nodes_put h, enter]
    by_cases hdir : dir = n
    · rw [if_pos hdir, hdir, file?_eq_some.mp h]
    · simp only [if_neg hdir, named, target_put h]

/-! ### A new file -/

/-- What a name stands for is there. -/
theorem lt_of_mem_names {parent : Nat} {names : List (String × Nat)} {entry : String × Nat}
    (h : d.nodes[dir]? = some (.directory parent names)) (he : entry ∈ names) :
    entry.2 < d.nodes.length := by
  have hinside := List.all_eq_true.mp d.inside _ (List.mem_of_getElem? h)
  exact Nat.blt_eq.mp (List.all_eq_true.mp hinside entry he)

/-- A name that stands for nothing is not in its directory. -/
theorem directory_of_enter {name : String} (h : d.enter dir name = .ok .nothing) :
    ∃ parent names, d.nodes[dir]? = some (.directory parent names) ∧ name ≠ "." ∧ name ≠ ".." ∧
      (names.find? fun entry => entry.1 == name) = none := by
  rw [enter] at h
  split at h
  · rename_i parent names hdir
    refine ⟨parent, names, hdir, ?_⟩
    split at h
    · cases h
    split at h
    · cases h
    refine ⟨‹_›, ‹_›, ?_⟩
    rw [named] at h
    cases hfind : names.find? fun entry => entry.1 == name with
    | none => rfl
    | some entry =>
      have hlt := lt_of_mem_names hdir (List.mem_of_find?_eq_some hfind)
      simp only [hfind, target, List.getElem?_eq_getElem hlt] at h
      cases hnode : d.nodes[entry.2] <;> simp [hnode] at h
  · cases h

theorem nodes_add (d : Disk) (dir : Nat) (name : String) (m : Nat) :
    (d.add dir name).nodes[m]? =
      if m = d.nodes.length then some (.file [])
      else (d.nodes[m]?).map (if m = dir then .addName name d.nodes.length else id) := by
  rw [add]
  rcases Nat.lt_trichotomy m d.nodes.length with hm | hm | hm
  · rw [List.getElem?_append_left (by simpa using hm), List.getElem?_modify,
      if_neg (Nat.ne_of_lt hm)]
    by_cases hdir : m = dir
    · simp [hdir]
    · simp [hdir, Ne.symm hdir]
  · rw [List.getElem?_append_right (by simp [hm])]
    simp [hm]
  · have hnone : d.nodes[m]? = none := List.getElem?_eq_none (Nat.le_of_lt hm)
    rw [if_neg (Nat.ne_of_gt hm), hnone]
    exact List.getElem?_eq_none (by simpa using Nat.succ_le_of_lt hm)

theorem file?_add (d : Disk) (dir : Nat) (name : String) (m : Nat) :
    (d.add dir name).file? m = if m = d.nodes.length then some [] else d.file? m := by
  rw [file?, nodes_add, file?]
  by_cases hm : m = d.nodes.length
  · simp [hm]
  · rw [if_neg hm, if_neg hm]
    by_cases hdir : m = dir
    · rw [if_pos hdir]
      cases d.nodes[m]? with
      | none => rfl
      | some node => cases node <;> rfl
    · rw [if_neg hdir, Option.map_id_fun, id]

theorem target_add (dir : Nat) (name : String) {m : Nat} (h : m < d.nodes.length) :
    (d.add dir name).target m = d.target m := by
  rw [target, nodes_add, target, if_neg (Nat.ne_of_lt h)]
  by_cases hdir : m = dir
  · rw [if_pos hdir]
    cases d.nodes[m]? with
    | none => rfl
    | some node => cases node <;> rfl
  · rw [if_neg hdir, Option.map_id_fun, id]

/-- The names that were in a directory stand for what they stood for. -/
theorem named_add {dir' parent : Nat} {names : List (String × Nat)} (name other : String)
    (h : d.nodes[dir']? = some (.directory parent names)) :
    (d.add dir name).named names other = d.named names other := by
  rw [named, named]
  cases hfind : names.find? fun entry => entry.1 == other with
  | none => rfl
  | some entry => exact target_add dir name (lt_of_mem_names h (List.mem_of_find?_eq_some hfind))

theorem named_append (names : List (String × Nat)) {name other : String} (h : other ≠ name) :
    d.named (names ++ [(name, n)]) other = d.named names other := by
  have hnone : ([(name, n)].find? fun entry => entry.1 == other) = none := by
    simpa using Ne.symm h
  rw [named, named, List.find?_append, hnone, Option.or_none]

theorem enter_add_same {name : String} (h : d.enter dir name = .ok .nothing) :
    (d.add dir name).enter dir name = .ok (.file d.nodes.length) := by
  obtain ⟨parent, names, hdir, hdot, hdots, hfind⟩ := directory_of_enter h
  have hlt : dir < d.nodes.length := (List.getElem?_eq_some_iff.mp hdir).1
  have hnew : (d.add dir name).target d.nodes.length = .file d.nodes.length := by
    rw [target, nodes_add, if_pos rfl]
  rw [enter, nodes_add, if_neg (Nat.ne_of_lt hlt), if_pos rfl, hdir]
  simp [Inode.addName, named, hdot, hdots, hfind, hnew]

theorem enter_add_other {name other : String} {dir' : Nat} (h : d.enter dir name = .ok .nothing)
    (hne : dir' ≠ dir ∨ other ≠ name) :
    (d.add dir name).enter dir' other = d.enter dir' other := by
  rw [enter, nodes_add, enter]
  by_cases hlast : dir' = d.nodes.length
  · simp [hlast]
  rw [if_neg hlast]
  by_cases hdir : dir' = dir
  · subst hdir
    obtain ⟨parent, names, hnode, -⟩ := directory_of_enter h
    have hname : other ≠ name := hne.resolve_left fun hdir => hdir rfl
    rw [if_pos rfl, hnode]
    simp only [Option.map_some, Inode.addName, named_append names hname, named_add name other hnode]
  · rw [if_neg hdir, Option.map_id_fun, id]
    cases hnode : d.nodes[dir']? with
    | none => rfl
    | some node =>
      cases node with
      | directory parent names => simp only [named_add name other hnode]
      | file | link => rfl

/-- Names stand for what they stood for, but the new name did not stand for anything. -/
theorem grows_add {name : String} (h : d.enter dir name = .ok .nothing) :
    d.Grows (d.add dir name) d.nodes.length where
  root := rfl
  working := rfl
  refused := rfl
  enter dir' other := by
    by_cases hsame : dir' = dir ∧ other = name
    · obtain ⟨rfl, rfl⟩ := hsame
      exact .inr ⟨h, enter_add_same h⟩
    · refine .inl (enter_add_other h ?_)
      by_cases hdir : dir' = dir
      · exact .inr fun hname => hsame ⟨hdir, hname⟩
      · exact .inl hdir

/-- A path to a name that is free leads to the new file under that name. -/
theorem leads_add {name : String} (h : d.place false path = .ok (.free dir name))
    (henter : d.enter dir name = .ok .nothing) :
    (d.add dir name).Leads path d.nodes.length := by
  have hplace := (grows_add henter).place false path
  rw [h] at hplace
  rw [Leads]
  generalize hplace' : (d.add dir name).place false path = r at hplace ⊢
  cases hplace with
  | same =>
    have hfree := enter_of_place hplace'
    rw [enter_add_same henter] at hfree
    cases hfree
  | filled => rfl

/-! ### Writing a file -/

/-- One disk comes from another by writing one file: every other file holds what it held, every path
that led somewhere leads there, and the only new paths are those to the file. -/
structure Wrote (d : Disk) (n : Nat) (content : Bytes) (d' : Disk) : Prop where
  found : d'.file? n = some content
  others : ∀ m, m ≠ n → d'.file? m = d.file? m
  kept : ∀ path m, d.Leads path m → d'.Leads path m
  new : ∀ path m, d'.Leads path m → m = n ∨ d.Leads path m
  input : d'.input = d.input
  output : d'.output = d.output

theorem wrote_put (h : d.file? n = some content) (bytes : Bytes) :
    d.Wrote n bytes (d.put n bytes) where
  found := by rw [file?_put h, if_pos rfl]
  others m hm := by rw [file?_put h, if_neg hm]
  kept _ _ := (grows_put h bytes).leads
  new _ _ := (grows_put h bytes).leads_or
  input := rfl
  output := rfl

theorem wrote_add {name : String} (h : d.enter dir name = .ok .nothing) :
    d.Wrote d.nodes.length [] (d.add dir name) where
  found := by rw [file?_add, if_pos rfl]
  others m hm := by rw [file?_add, if_neg hm]
  kept _ _ := (grows_add h).leads
  new _ _ := (grows_add h).leads_or
  input := rfl
  output := rfl

/-- Writing a file twice leaves what was written last. -/
theorem Wrote.trans {d'' : Disk} {bytes : Bytes} (h : d.Wrote n content d')
    (h' : d'.Wrote n bytes d'') : d.Wrote n bytes d'' where
  found := h'.found
  others m hm := (h'.others m hm).trans (h.others m hm)
  kept path m hm := h'.kept path m (h.kept path m hm)
  new path m hm := (h'.new path m hm).elim .inl (h.new path m)
  input := h'.input.trans h.input
  output := h'.output.trans h.output

theorem openFile_eq_ok :
    d.openFile path = .ok n ↔
      d.Leads path n ∧ d.refused (.read n) = none ∧ ∃ content, d.file? n = some content := by
  rw [openFile, Leads]
  cases d.place false path with
  | error f => simp [bind, Except.bind]
  | ok place =>
    cases place with
    | free dir name => simp [bind, Except.bind]
    | node m =>
      refine permit_bind_eq_ok.trans ?_
      constructor
      · rintro ⟨hread, h⟩
        cases hfile : d.file? m with
        | none => simp [hfile] at h
        | some content =>
          rw [hfile] at h
          cases h
          exact ⟨rfl, hread, content, hfile⟩
      · rintro ⟨hplace, hread, content, hfile⟩
        cases hplace
        exact ⟨hread, by rw [hfile]⟩

/-- A file that was emptied is the one that its path leads to then; the path led there before, or it
led nowhere and the file is a new one. -/
theorem emptyFile_spec (h : d.emptyFile path = .ok (n, d')) :
    d.Wrote n [] d' ∧ d'.Leads path n ∧
      (d.Leads path n ∨ d.file? n = none ∧ ∀ m, ¬d.Leads path m) := by
  cases hplace : d.place true path with
  | error f => simp [emptyFile, hplace, bind, Except.bind] at h
  | ok place =>
    simp only [emptyFile, hplace, bind, Except.bind] at h
    have hfind := place_find hplace
    cases place with
    | node m =>
      cases hfile : d.file? m with
      | none => simp [hfile] at h
      | some content =>
        simp only [hfile] at h
        obtain ⟨-, h⟩ := permit_bind_eq_ok.mp h
        cases h
        have hwrote := wrote_put hfile []
        exact ⟨hwrote, hwrote.kept path n hfind, .inl hfind⟩
    | free dir name =>
      obtain ⟨-, h⟩ := permit_bind_eq_ok.mp h
      cases h
      have henter := enter_of_place hplace
      refine ⟨wrote_add henter, leads_add hfind henter, .inr ⟨?_, fun m hm => ?_⟩⟩
      · rw [file?, List.getElem?_eq_none (Nat.le_refl _)]
      · cases hfind.symm.trans hm

theorem addToFile_eq (h : d.file? n = some content) (bytes : Bytes) :
    d.addToFile n bytes = d.put n (content ++ bytes) := by
  rw [addToFile, h]

/-- A file that was emptied holds what is added to it. -/
theorem wrote_addToFile (h : d.emptyFile path = .ok (n, d')) (bytes : Bytes) :
    d.Wrote n bytes (d'.addToFile n bytes) ∧ (d'.addToFile n bytes).Leads path n := by
  obtain ⟨hwrote, hleads, -⟩ := emptyFile_spec h
  have hadded := wrote_put hwrote.found bytes
  rw [addToFile_eq hwrote.found, List.nil_append]
  exact ⟨hwrote.trans hadded, hadded.kept path n hleads⟩

end Disk

end Stencil.Cli
