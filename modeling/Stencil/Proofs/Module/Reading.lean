import Stencil.Module.Basic
import Stencil.Proofs.Json.Value
import Stencil.Proofs.Text.Units
import Stencil.Tree.Node

/-!
Reading a module back. The name and the token tree stand between fixed texts, and each of them ends
where its own text says, so a module tells exactly what it was made from. Only a whole number too
long to be written keeps a tree from having a module.
-/
namespace Stencil

open Number Text

namespace Json

mutual

/-- No whole number in the value has more digits than are written. -/
def Short : Json → Prop
  | .integer n => (Nat.toDigits 10 n.natAbs).length ≤ maxDigits
  | .list items => ItemsShort items
  | .object fields => FieldsShort fields
  | _ => True

/-- No whole number in the items has more digits than are written. -/
def ItemsShort : List Json → Prop
  | [] => True
  | v :: rest => Short v ∧ ItemsShort rest

/-- No whole number in the fields has more digits than are written. -/
def FieldsShort : List (Units × Json) → Prop
  | [] => True
  | (_, v) :: rest => Short v ∧ FieldsShort rest

end

mutual

theorem writable_iff (v : Json) : v.writable = true ↔ Short v := by
  match v with
  | .null => simp [writable, Short]
  | .bool _ => simp [writable, Short]
  | .number _ => simp [writable, Short]
  | .text _ => simp [writable, Short]
  | .integer n =>
    rw [writable, decide_eq_true_eq, Short]
    exact (Nat.length_toDigits_le_iff (by decide) (by decide)).symm
  | .list items => exact writableItems_iff items
  | .object fields => exact writableFields_iff fields

theorem writableItems_iff (items : List Json) : writableItems items = true ↔ ItemsShort items := by
  match items with
  | [] => simp [writableItems, ItemsShort]
  | v :: rest =>
    rw [writableItems, ItemsShort, Bool.and_eq_true, writable_iff v, writableItems_iff rest]

theorem writableFields_iff (fields : List (Units × Json)) :
    writableFields fields = true ↔ FieldsShort fields := by
  match fields with
  | [] => simp [writableFields, FieldsShort]
  | (name, v) :: rest =>
    rw [writableFields, FieldsShort, Bool.and_eq_true, writable_iff v, writableFields_iff rest]

end

/-- A value has a text exactly if its whole numbers are short enough. -/
theorem serialize_eq_some (v : Json) (text : List Char) :
    v.serialize = some text ↔ Short v ∧ v.write = text := by
  rw [← writable_iff, serialize]
  split <;> simp_all

/-- The value at the beginning of a text is the one that was written there. -/
theorem readFirst_write (v : Json) (rest : List Char) (hn : NanFree v) (hr : Ends rest) :
    readFirst (v.write ++ rest) = some (v, rest) := by
  apply readValue_write v _ rest hn _ hr
  rw [List.length_append]
  omega

end Json

namespace Module

/-- The name at the beginning of a text: one string, or the placeholders. -/
def readIdentifier : List Char → Option (Identifier × List Char)
  | '"' :: s => do
    let (name, rest) ← Json.readText s
    let name ← charsOfUnits? name
    some (.literal (String.ofList name), rest)
  | s => (s.dropPrefix? placeholders).map fun rest => (.deferred, rest)

/-- The name and the token tree of a module. Nothing may be missing, and nothing may follow. -/
def read (s : List Char) : Option (Identifier × Json) := do
  let s ← s.dropPrefix? (moduleStart ++ callStart)
  let (identifier, s) ← readIdentifier s
  let s ← s.dropPrefix? dataMark
  let (tree, s) ← Json.readFirst s
  let s ← s.dropPrefix? (callEnd ++ [';'])
  if s.isEmpty then some (identifier, tree) else none

theorem dropPrefix?_append (start s : List Char) : (start ++ s).dropPrefix? start = some s :=
  List.dropPrefix?_append_of_beq s (BEq.refl start)

/-- A name is read back, and what follows it is left. -/
theorem readIdentifier_identifierText (identifier : Identifier) (rest : List Char) :
    readIdentifier (identifierText identifier ++ rest) = some (identifier, rest) := by
  cases identifier with
  | literal value =>
    have htext := Json.readText_writeText (units value) rest
    have hchars : charsOfUnits? (units value) = some value.toList :=
      charsOfUnits?_unitsOfChars value.toList
    simp [identifierText, Json.writeText, readIdentifier, htext, hchars]
  | deferred =>
    change ((placeholders ++ rest).dropPrefix? placeholders).map (fun rest => (_, rest)) = _
    rw [dropPrefix?_append]
    rfl

/-- A module reads back as the name and the tree that it was made from. -/
theorem read_wrap (identifier : Identifier) {tree : Json} (hn : tree.NanFree) :
    read (wrap (constructorCall identifier tree.write)) = some (identifier, tree) := by
  have hends : Json.Ends (callEnd ++ [';']) := Json.ends_comma _
  have htext : wrap (constructorCall identifier tree.write) =
      (moduleStart ++ callStart) ++ (identifierText identifier ++
        (dataMark ++ (tree.write ++ (callEnd ++ [';'])))) := by
    simp [wrap, constructorCall]
  have hlast : (callEnd ++ [';']).dropPrefix? (callEnd ++ [';']) = some [] := by
    have h := dropPrefix?_append (callEnd ++ [';']) []
    rwa [List.append_nil] at h
  rw [htext, read, dropPrefix?_append]
  simp only [Option.bind_eq_bind, Option.bind_some, readIdentifier_identifierText,
    dropPrefix?_append, Json.readFirst_write tree _ hn hends, hlast]
  rfl

/-- A module can be read back in one way only: every name and every tree without undefined numbers
and without whole numbers that are too long has a module, the module reads back as exactly that name
and that tree, and no other name or tree has the same module. -/
theorem read_module (identifier : Identifier) (tree : Json) (hn : tree.NanFree)
    (hs : tree.Short) :
    ∃ tokens, tree.serialize = some tokens ∧
      read (wrap (constructorCall identifier tokens)) = some (identifier, tree) ∧
      ∀ identifier' tree' tokens', tree'.NanFree → tree'.serialize = some tokens' →
        wrap (constructorCall identifier' tokens') = wrap (constructorCall identifier tokens) →
          identifier' = identifier ∧ tree' = tree := by
  have hread := read_wrap identifier hn
  refine ⟨tree.write, (Json.serialize_eq_some _ _).mpr ⟨hs, rfl⟩, hread, ?_⟩
  intro identifier' tree' tokens' hn' hs' heq
  obtain ⟨-, rfl⟩ := (Json.serialize_eq_some _ _).mp hs'
  have hread' := read_wrap identifier' hn'
  rw [heq, hread] at hread'
  cases hread'
  exact ⟨rfl, rfl⟩

/-- A name and a text with marks of the module in them, and numbers of both kinds. -/
theorem read_module_marks :
    let identifier : Identifier := .literal "a\", data:[] \x7d);\n"
    let tree : Json := .list [.record [("type", .ofString "raw\\"), ("line", .integer (-12))],
      .number (.infinite true), .number .zero, .list []]
    tree.NanFree ∧ tree.Short ∧ ∃ tokens, tree.serialize = some tokens ∧
      read (wrap (constructorCall identifier tokens)) = some (identifier, tree) := by
  intro identifier tree
  have hn : tree.NanFree := by
    simp [tree, Json.NanFree, Json.ItemsNanFree, Json.record, Json.FieldsNanFree, Json.ofString,
      Double.zero]
  have hs : tree.Short := by
    simp [tree, Json.Short, Json.ItemsShort, Json.record, Json.FieldsShort, Json.ofString]
    decide
  obtain ⟨tokens, hserialize, hread, -⟩ := read_module identifier tree hn hs
  exact ⟨hn, hs, tokens, hserialize, hread⟩

/-- A tree that prints a whole number of one digit more than are written has no module. -/
theorem serialize_long_integer :
    let tree : Json :=
      Tree.treeJson [.output [⟨1, "integer", .integer (10 ^ Json.maxDigits)⟩]]
    tree.NanFree ∧ ¬∃ tokens, tree.serialize = some tokens ∧
      read (wrap (constructorCall (.literal "a") tokens)) = some (.literal "a", tree) := by
  intro tree
  have hlong : ¬tree.Short := by
    intro hs
    simp only [tree, Tree.treeJson, Tree.nodesJson, Tree.Node.toJson, Tree.Token.toJson,
      Tree.Literal.toJson, List.map_cons, List.map_nil, Json.record, Json.Short, Json.ItemsShort,
      Json.FieldsShort] at hs
    have hdigits : (Nat.toDigits 10 (10 ^ Json.maxDigits : Int).natAbs).length ≤ Json.maxDigits :=
      hs.1.2.1.1.2.1
    have hlt := (Nat.length_toDigits_le_iff (by decide) (by decide)).mp hdigits
    rw [Int.natAbs_pow] at hlt
    simp at hlt
  refine ⟨?_, ?_⟩
  · simp only [tree, Tree.treeJson, Tree.nodesJson, Tree.Node.toJson, Tree.Token.toJson,
      Tree.Literal.toJson, List.map_cons, List.map_nil, Json.record, Json.ofString, Json.NanFree,
      Json.ItemsNanFree, Json.FieldsNanFree, and_self]
  · rintro ⟨tokens, hserialize, -⟩
    exact hlong ((Json.serialize_eq_some _ _).mp hserialize).1

end Module

end Stencil
