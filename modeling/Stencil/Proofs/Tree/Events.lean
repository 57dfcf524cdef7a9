import Stencil.Tree.Fold

/-!
Streams cut into whole groups. Reading a stream token by token with an open group in hand gives the
same events as taking each group at once: its tokens run up to the first one that closes it, or to
the end of the stream.
-/
namespace Stencil.Tree

open Text

/-- The tokens of a group up to the first one of the closing kind, and what follows that one. -/
def collect (kind : String) (ts : List Token) : List Token × List Token :=
  (ts.takeWhile fun t => t.kind != kind, (ts.dropWhile fun t => t.kind != kind).tail)

theorem collect_rest_length (kind : String) (ts : List Token) :
    (collect kind ts).2.length ≤ ts.length := by
  have h : (ts.dropWhile fun t => t.kind != kind).length ≤ ts.length :=
    (List.dropWhile_suffix _).length_le
  simp only [collect, List.length_tail]
  omega

def Lacks (kind : String) (ts : List Token) : Prop := ∀ t ∈ ts, t.kind ≠ kind

/-- Nothing is closed before the first token of the closing kind. -/
theorem collect_append (kind : String) (stack : List Token) (last : Token) (rest : List Token)
    (hs : Lacks kind stack) (hl : last.kind = kind) :
    collect kind (stack ++ last :: rest) = (stack, rest) := by
  have hp : ∀ t ∈ stack, (t.kind != kind) = true := by
    intro t ht
    simpa using hs t ht
  have hn : (last.kind != kind) = false := by simp [hl]
  simp only [collect]
  rw [List.takeWhile_append_of_pos hp, List.dropWhile_append_of_pos hp]
  simp [hn]

def OpenGroup.extend (o : OpenGroup) (ts : List Token) : OpenGroup :=
  ts.foldl (fun o t => o.push t) o

@[simp] theorem OpenGroup.endKind_push (o : OpenGroup) (t : Token) :
    (o.push t).endKind = o.endKind := by cases o <;> rfl

theorem OpenGroup.extend_output (stack ts : List Token) :
    (OpenGroup.output stack).extend ts = .output (ts.reverse ++ stack) := by
  induction ts generalizing stack with
  | nil => rfl
  | cons t ts ih =>
    change (OpenGroup.output (t :: stack)).extend ts = _
    rw [ih]
    simp

theorem OpenGroup.extend_statement (line : Int) (stack ts : List Token) :
    (OpenGroup.statement line stack).extend ts = .statement line (ts.reverse ++ stack) := by
  induction ts generalizing stack with
  | nil => rfl
  | cons t ts ih =>
    change (OpenGroup.statement line (t :: stack)).extend ts = _
    rw [ih]
    simp

/-- An open group takes everything up to its closing token, and reading goes on behind that. -/
theorem groupsFrom_some (o : OpenGroup) (ts : List Token) :
    groupsFrom (some o) ts =
      (o.extend (collect o.endKind ts).1).group :: groups (collect o.endKind ts).2 := by
  induction ts generalizing o with
  | nil => rfl
  | cons t ts ih =>
    by_cases ht : t.kind = o.endKind
    · simp [groupsFrom, collect, groups, OpenGroup.extend, ht]
    · have hstep : groupsFrom (some o) (t :: ts) = groupsFrom (some (o.push t)) ts := by
        simp [groupsFrom, ht]
      rw [hstep, ih, OpenGroup.endKind_push]
      simp [collect, OpenGroup.extend, ht]

@[simp] theorem groups_nil : groups [] = [] := rfl

theorem groups_data (t : Token) (rest : List Token) (h : t.kind = "data") :
    groups (t :: rest) = .text t.value :: groups rest := by
  simp [groups, groupsFrom, h]

theorem groups_output (t : Token) (rest : List Token) (h : t.kind = "variable_begin") :
    groups (t :: rest) =
      .output (collect "variable_end" rest).1 :: groups (collect "variable_end" rest).2 := by
  have hopen : groups (t :: rest) = groupsFrom (some (.output [])) rest := by
    simp [groups, groupsFrom, h]
  rw [hopen, groupsFrom_some, OpenGroup.extend_output]
  simp [OpenGroup.group, OpenGroup.endKind]

theorem groups_statement (t : Token) (rest : List Token) (h : t.kind = "block_begin") :
    groups (t :: rest) =
      .statement t.line (collect "block_end" rest).1 :: groups (collect "block_end" rest).2 := by
  have hopen : groups (t :: rest) = groupsFrom (some (.statement t.line [])) rest := by
    simp [groups, groupsFrom, h]
  rw [hopen, groupsFrom_some, OpenGroup.extend_statement]
  simp [OpenGroup.group, OpenGroup.endKind]

/-- Outside groups, a token of any other kind says nothing. -/
theorem groups_other (t : Token) (rest : List Token) (hd : t.kind ≠ "data")
    (ho : t.kind ≠ "variable_begin") (hs : t.kind ≠ "block_begin") :
    groups (t :: rest) = groups rest := by
  simp [groups, groupsFrom, hd, ho, hs]

/-- A stream cut into whole groups. -/
def segments : List Token → List Group
  | [] => []
  | t :: rest =>
    if t.kind = "data" then .text t.value :: segments rest
    else if t.kind = "variable_begin" then
      .output (collect "variable_end" rest).1 :: segments (collect "variable_end" rest).2
    else if t.kind = "block_begin" then
      .statement t.line (collect "block_end" rest).1 :: segments (collect "block_end" rest).2
    else segments rest
termination_by ts => ts.length
decreasing_by
  · exact Nat.lt_succ_self rest.length
  · exact Nat.lt_succ_of_le (collect_rest_length "variable_end" rest)
  · exact Nat.lt_succ_of_le (collect_rest_length "block_end" rest)
  · exact Nat.lt_succ_self rest.length

/-- Reading token by token and taking whole groups come to the same. -/
theorem groups_eq_segments (ts : List Token) : groups ts = segments ts := by
  induction ts using segments.induct with
  | case1 => rw [segments, groups_nil]
  | case2 t rest h ih => rw [groups_data t rest h, ih, segments, if_pos h]
  | case3 t rest hd h ih => rw [groups_output t rest h, ih, segments, if_neg hd, if_pos h]
  | case4 t rest hd ho h ih =>
    rw [groups_statement t rest h, ih, segments, if_neg hd, if_neg ho, if_pos h]
  | case5 t rest hd ho hs ih =>
    rw [groups_other t rest hd ho hs, ih, segments, if_neg hd, if_neg ho, if_neg hs]

section Events

variable {a rest : List Token} {group : Group} {e : Event}

theorem events_of_groups (h : groups a = group :: groups rest) (he : group.event = some e) :
    events a = (events rest).map (e :: ·) := by
  rw [events, events, h, List.mapM_cons, he]
  cases (groups rest).mapM Group.event <;> rfl

/-- A list is read if each of its groups is. -/
theorem exists_mapM_event_iff (gs : List Group) :
    (∃ es, gs.mapM Group.event = some es) ↔ ∀ group ∈ gs, ∃ e, group.event = some e := by
  induction gs with
  | nil => simp
  | cons group gs ih =>
    rw [List.forall_mem_cons, ← ih, List.mapM_cons]
    cases group.event <;> cases gs.mapM Group.event <;> simp

end Events

/-- The texts of a stream are texts, not numbers. -/
def TextData (ts : List Token) : Prop := ∀ t ∈ ts, t.kind = "data" → ∃ s, t.value = .text s

/-- The name of a statement is no whole number of too many digits. -/
def Group.Named : Group → Prop
  | .statement _ (first :: _) =>
    ∀ n, first.value = .integer n → (Nat.toDigits 10 n.natAbs).length ≤ Json.maxDigits
  | _ => True

theorem exists_asText_iff (v : Literal) :
    (∃ s, v.asText = some s) ↔
      ∀ n, v = .integer n → (Nat.toDigits 10 n.natAbs).length ≤ Json.maxDigits := by
  cases v with
  | text | number => simp [Literal.asText]
  | integer n =>
    have hlength := Nat.length_toDigits_le_iff (b := 10) (n := n.natAbs) (k := Json.maxDigits)
      (by decide) (by decide)
    by_cases h : n.natAbs < 10 ^ Json.maxDigits <;>
      simp [Literal.asText, Json.serialize, Json.writable, hlength, h]

theorem exists_event_statement_iff (line : Int) (stack : List Token) :
    (∃ e, (Group.statement line stack).event = some e) ↔ (Group.statement line stack).Named := by
  cases stack with
  | nil => simp [Group.event, Head.ofGroup, Group.Named]
  | cons first rest =>
    rw [Group.Named, ← exists_asText_iff]
    cases hv : first.value.asText <;> simp [Group.event, Head.ofGroup, hv]

/-- The texts of a stream are the values of its texts. -/
theorem data_of_mem_segments {v : Literal} {ts : List Token} (h : .text v ∈ segments ts) :
    ∃ t ∈ ts, t.kind = "data" ∧ t.value = v := by
  have later {kind : String} {t : Token} {rest : List Token}
      (h : ∃ t ∈ (collect kind rest).2, t.kind = "data" ∧ t.value = v) :
      ∃ t' ∈ t :: rest, t'.kind = "data" ∧ t'.value = v := by
    obtain ⟨t', ht', hv⟩ := h
    have hrest : t' ∈ rest := (List.dropWhile_subset _) (List.mem_of_mem_tail ht')
    exact ⟨t', List.mem_cons_of_mem _ hrest, hv⟩
  induction ts using segments.induct with
  | case1 =>
    rw [segments] at h
    cases h
  | case2 t rest hd ih =>
    rw [segments, if_pos hd] at h
    rcases List.mem_cons.mp h with h | h
    · cases h
      exact ⟨t, List.mem_cons_self, hd, rfl⟩
    · obtain ⟨t', ht', hv⟩ := ih h
      exact ⟨t', List.mem_cons_of_mem _ ht', hv⟩
  | case3 t rest hd ho ih =>
    rw [segments, if_neg hd, if_pos ho] at h
    exact later (ih ((List.mem_cons.mp h).resolve_left nofun))
  | case4 t rest hd ho hs ih =>
    rw [segments, if_neg hd, if_neg ho, if_pos hs] at h
    exact later (ih ((List.mem_cons.mp h).resolve_left nofun))
  | case5 t rest hd ho hs ih =>
    rw [segments, if_neg hd, if_neg ho, if_neg hs] at h
    obtain ⟨t', ht', hv⟩ := ih h
    exact ⟨t', List.mem_cons_of_mem _ ht', hv⟩

/-- A stream whose texts are texts has a tree exactly if the name of each statement can be
converted. -/
theorem exists_foldTokens_iff {ts : List Token} (hd : TextData ts) :
    (∃ tree, foldTokens ts = some tree) ↔ ∀ group ∈ segments ts, group.Named := by
  have htree : (∃ tree, foldTokens ts = some tree) ↔ ∃ es, events ts = some es := by
    cases he : events ts <;> simp [foldTokens, he]
  rw [htree, events, groups_eq_segments, exists_mapM_event_iff]
  refine forall₂_congr fun group hgroup => ?_
  cases group with
  | text v =>
    obtain ⟨t, ht, hkind, rfl⟩ := data_of_mem_segments hgroup
    obtain ⟨s, hs⟩ := hd t ht hkind
    simp [Group.event, Group.Named, hs, Literal.asText]
  | output stack => simp [Group.event, Group.Named]
  | statement line stack => exact exists_event_statement_iff line stack

/-- A tree is what its events fold to. -/
theorem exists_segments_of_foldTokens {ts : List Token} {tree : List Node}
    (h : foldTokens ts = some tree) :
    ∃ es, (segments ts).mapM Group.event = some es ∧ tree = foldEvents es := by
  obtain ⟨es, hes, rfl⟩ := Option.map_eq_some_iff.mp h
  rw [events, groups_eq_segments] at hes
  exact ⟨es, hes, rfl⟩

end Stencil.Tree
