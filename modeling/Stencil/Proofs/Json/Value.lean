import Stencil.Proofs.Json.Number
import Stencil.Proofs.Json.Text

/-!
Values read back from their texts. The reader finds in front of it what was written, and stops where
the value ends; the text of a value is long enough an allowance for reading it.
-/
namespace Stencil.Json

open Number Text

mutual

/-- No number in the value is undefined. -/
def NanFree : Json → Prop
  | .number x => x ≠ .nan
  | .list items => ItemsNanFree items
  | .object fields => FieldsNanFree fields
  | _ => True

def ItemsNanFree : List Json → Prop
  | [] => True
  | v :: rest => NanFree v ∧ ItemsNanFree rest

def FieldsNanFree : List (Units × Json) → Prop
  | [] => True
  | (_, v) :: rest => NanFree v ∧ FieldsNanFree rest

end

section Numbers

variable {s rest : List Char} {v : Json}

/-- What is read as a number begins with a digit or with the word for infinity. -/
theorem head_of_readNumber {negative : Bool} {r : Json × List Char}
    (h : readNumber negative s = some r) :
    ∃ c t, s = c :: t ∧ (c.isDigit = true ∨ c = 'I') := by
  cases s with
  | nil => cases h
  | cons c t =>
    refine ⟨c, t, rfl, ?_⟩
    by_cases hd : c.isDigit = true
    · exact .inl hd
    · have htake : takeDigits (c :: t) = ([], c :: t) := by
        rw [takeDigits, List.span_eq_takeWhile_dropWhile]
        simp [hd]
      rw [readNumber, htake] at h
      split at h
      · simp_all
      · cases h
      · simp_all

theorem head_of_number {c : Char} (hc : c.isDigit = true ∨ c = 'I') :
    c.isWhitespace = false ∧ c ≠ ']' := by
  constructor
  · rw [← Bool.not_eq_true]
    intro hw
    simp only [Char.isWhitespace, Bool.or_eq_true, decide_eq_true_eq] at hw
    rcases hw with ((rfl | rfl) | rfl) | rfl <;> revert hc <;> decide
  · rintro rfl
    revert hc
    decide

/-- A number without a sign is read as a number. -/
theorem readValue_of_readNumber {r : Json × List Char} (h : readNumber false s = some r)
    (fuel : Nat) : readValue (fuel + 1) s = some r := by
  obtain ⟨c, t, rfl, hc⟩ := head_of_readNumber h
  have hblank : skipBlank (c :: t) = c :: t := by simp [skipBlank, (head_of_number hc).1]
  rw [readValue, hblank]
  split <;> simp_all

theorem readValue_minus (t : List Char) (fuel : Nat) :
    readValue (fuel + 1) ('-' :: t) = readNumber true t := by
  simp [readValue, skipBlank, Char.isWhitespace]

theorem readValue_writeInteger (n : Int) (fuel : Nat) (hr : Ends rest) :
    readValue (fuel + 1) (writeInteger n ++ rest) = some (.integer n, rest) := by
  unfold writeInteger
  by_cases hn : n < 0
  · rw [if_pos hn, List.append_assoc, List.singleton_append, readValue_minus,
      readNumber_toDigits true _ hr, if_pos rfl, show -(n.natAbs : Int) = n by omega]
  · rw [if_neg hn, List.nil_append]
    apply readValue_of_readNumber
    rw [readNumber_toDigits false _ hr, if_neg Bool.false_ne_true,
      show (n.natAbs : Int) = n by omega]

theorem readValue_writeNumber (x : Double) (hx : x ≠ .nan) (fuel : Nat) (hr : Ends rest) :
    readValue (fuel + 1) (writeNumber x ++ rest) = some (.number x, rest) := by
  cases x with
  | nan => exact absurd rfl hx
  | infinite negative =>
    have hread : readNumber negative ("Infinity".toList ++ rest) =
        some (.number (.infinite negative), rest) := rfl
    cases negative with
    | false => exact readValue_of_readNumber hread fuel
    | true => exact (readValue_minus _ fuel).trans hread
  | finite negative m =>
    have hread := readNumber_text m negative hr
    cases negative with
    | false => exact readValue_of_readNumber hread fuel
    | true => exact (readValue_minus _ fuel).trans hread

end Numbers

section Values

theorem ends_nil : Ends [] := fun c hc => by cases hc

theorem ends_comma (t : List Char) : Ends (',' :: t) := fun c hc => by cases hc; decide

theorem ends_bracket (t : List Char) : Ends (']' :: t) := fun c hc => by cases hc; decide

theorem ends_brace (t : List Char) : Ends ('}' :: t) := fun c hc => by cases hc; decide

/-- A value begins with a character that is neither white space nor the end of a list. -/
theorem head_of_write {v : Json} (hn : NanFree v) :
    ∃ c t, write v = c :: t ∧ c.isWhitespace = false ∧ c ≠ ']' := by
  have number {s : List Char} {negative : Bool} {r : Json × List Char}
      (h : readNumber negative (s ++ []) = some r) :
      ∃ c t, s = c :: t ∧ c.isWhitespace = false ∧ c ≠ ']' := by
    rw [List.append_nil] at h
    obtain ⟨c, t, hs, hc⟩ := head_of_readNumber h
    exact ⟨c, t, hs, head_of_number hc⟩
  match v with
  | .null => exact ⟨_, _, rfl, rfl, by decide⟩
  | .bool true => exact ⟨_, _, rfl, rfl, by decide⟩
  | .bool false => exact ⟨_, _, rfl, rfl, by decide⟩
  | .text _ => exact ⟨_, _, rfl, rfl, by decide⟩
  | .list _ => exact ⟨_, _, rfl, rfl, by decide⟩
  | .object _ => exact ⟨_, _, rfl, rfl, by decide⟩
  | .integer n =>
    by_cases h : n < 0
    · exact ⟨'-', _, by rw [write, writeInteger, if_pos h]; rfl, rfl, by decide⟩
    · rw [write, writeInteger, if_neg h, List.nil_append]
      exact number (readNumber_toDigits false n.natAbs ends_nil)
  | .number .nan => exact absurd rfl hn
  | .number (.infinite true) => exact ⟨_, _, rfl, rfl, by decide⟩
  | .number (.infinite false) => exact ⟨_, _, rfl, rfl, by decide⟩
  | .number (.finite true _) => exact ⟨_, _, rfl, rfl, by decide⟩
  | .number (.finite false m) => exact number (readNumber_text m false ends_nil)

theorem skipBlank_cons {c : Char} {t : List Char} (h : c.isWhitespace = false) :
    skipBlank (c :: t) = c :: t := by
  simp [skipBlank, h]

/-- The items of a list do not begin with its end. -/
theorem head_of_writeItems {v : Json} (hn : NanFree v) (more : List Json) :
    ∃ c t, writeItems (v :: more) = c :: t ∧ c.isWhitespace = false ∧ c ≠ ']' := by
  obtain ⟨c, t, hwrite, hc⟩ := head_of_write hn
  cases more with
  | nil => exact ⟨c, t, hwrite, hc⟩
  | cons next more => exact ⟨c, _, by rw [writeItems, hwrite, List.cons_append], hc⟩

theorem readValue_bracket {c : Char} (hb : c.isWhitespace = false) (hc : c ≠ ']') (t : List Char)
    (fuel : Nat) :
    readValue (fuel + 1) ('[' :: c :: t) =
      (readItems fuel (c :: t)).map fun r => (.list r.1, r.2) := by
  have hopen : skipBlank ('[' :: c :: t) = '[' :: c :: t := skipBlank_cons (by decide)
  simp only [readValue, hopen]
  rw [skipBlank_cons hb]
  split
  · simp_all
  · rfl

theorem readValue_brace (t : List Char) (fuel : Nat) :
    readValue (fuel + 1) ('{' :: '"' :: t) =
      (readFields fuel ('"' :: t)).map fun r => (.object r.1, r.2) := by
  rfl

/-- The fields of an object begin with the quotation mark of the first name. -/
theorem writeFields_cons (name : Units) (v : Json) (more : List (Units × Json)) :
    ∃ t, writeFields ((name, v) :: more) = '"' :: t := by
  cases more with
  | nil => exact ⟨_, rfl⟩
  | cons next more => exact ⟨_, rfl⟩

mutual

/-- A value is read back from its text, and what follows it is left. -/
theorem readValue_write (v : Json) (fuel : Nat) (rest : List Char) (hn : NanFree v)
    (hf : (write v).length ≤ fuel) (hr : Ends rest) :
    readValue fuel (write v ++ rest) = some (v, rest) := by
  obtain ⟨c, t, hwrite, -, -⟩ := head_of_write hn
  cases fuel with
  | zero =>
    rw [hwrite] at hf
    cases hf
  | succ fuel =>
    match v with
    | .null => rfl
    | .bool true => rfl
    | .bool false => rfl
    | .integer n => exact readValue_writeInteger n fuel hr
    | .number x => exact readValue_writeNumber x hn fuel hr
    | .text s =>
      have htext := readText_writeText s rest
      simp [write, writeText, readValue, skipBlank, Char.isWhitespace, htext]
    | .list [] => rfl
    | .list (v :: more) =>
      obtain ⟨c, t, hitems, hblank, hclose⟩ := head_of_writeItems hn.1 more
      simp only [write, List.cons_append, List.length_cons, List.length_append,
        List.length_nil] at hf
      have hread := readItems_write (v :: more) fuel rest (by simp) hn (by omega)
      rw [hitems, List.cons_append] at hread
      simp only [write, List.cons_append, List.append_assoc, List.nil_append]
      rw [hitems, List.cons_append, readValue_bracket hblank hclose, hread]
      rfl
    | .object [] => rfl
    | .object ((name, v) :: more) =>
      obtain ⟨t, hfields⟩ := writeFields_cons name v more
      simp only [write, List.cons_append, List.length_cons, List.length_append,
        List.length_nil] at hf
      have hread := readFields_write ((name, v) :: more) fuel rest (by simp) hn (by omega)
      rw [hfields, List.cons_append] at hread
      simp only [write, List.cons_append, List.append_assoc, List.nil_append]
      rw [hfields, List.cons_append, readValue_brace, hread]
      rfl

/-- The items of a list are read back up to its end. -/
theorem readItems_write (items : List Json) (fuel : Nat) (rest : List Char) (hne : items ≠ [])
    (hn : ItemsNanFree items) (hf : (writeItems items).length < fuel) :
    readItems fuel (writeItems items ++ ']' :: rest) = some (items, rest) := by
  cases fuel with
  | zero => cases hf
  | succ fuel =>
    match items with
    | [] => contradiction
    | [v] =>
      have hread := readValue_write v fuel (']' :: rest) hn.1 (Nat.le_of_lt_succ hf)
        (ends_bracket rest)
      simp [readItems, writeItems, hread, skipBlank, Char.isWhitespace]
    | v :: next :: more =>
      simp only [writeItems, List.length_append, List.length_cons] at hf
      have hread := readValue_write v fuel (',' :: (writeItems (next :: more) ++ ']' :: rest)) hn.1
        (by omega) (ends_comma _)
      have hmore := readItems_write (next :: more) fuel rest (by simp) hn.2 (by omega)
      simp [readItems, writeItems, hread, hmore, skipBlank, Char.isWhitespace]

/-- The fields of an object are read back up to its end. -/
theorem readFields_write (fields : List (Units × Json)) (fuel : Nat) (rest : List Char)
    (hne : fields ≠ []) (hn : FieldsNanFree fields) (hf : (writeFields fields).length < fuel) :
    readFields fuel (writeFields fields ++ '}' :: rest) = some (fields, rest) := by
  cases fuel with
  | zero => cases hf
  | succ fuel =>
    match fields with
    | [] => contradiction
    | [(name, v)] =>
      simp only [writeFields, List.length_append, List.length_cons] at hf
      have hname := readText_writeText name (':' :: (write v ++ '}' :: rest))
      have hread := readValue_write v fuel ('}' :: rest) hn.1 (by omega) (ends_brace rest)
      simp [readFields, writeFields, writeText, hname, hread, skipBlank, Char.isWhitespace]
    | (name, v) :: next :: more =>
      simp only [writeFields, List.length_append, List.length_cons] at hf
      have hname := readText_writeText name
        (':' :: (write v ++ ',' :: (writeFields (next :: more) ++ '}' :: rest)))
      have hread := readValue_write v fuel (',' :: (writeFields (next :: more) ++ '}' :: rest))
        hn.1 (by omega) (ends_comma _)
      have hmore := readFields_write (next :: more) fuel rest (by simp) hn.2 (by omega)
      simp [readFields, writeFields, writeText, hname, hread, hmore, skipBlank, Char.isWhitespace]

end

end Values

end Stencil.Json
