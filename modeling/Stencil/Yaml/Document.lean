import Stencil.Text.Base64
import Stencil.Text.Lines
import Stencil.Yaml.Node

/-!
The meaning of a document: its values as option values. Of several failures the one at the least
depth counts, and of those the first.
-/
namespace Stencil.Yaml

open Options Text

structure Refusal where
  depth : Nat
  failure : Failure

abbrev Meaning := Except Refusal

namespace Meaning

def fail (f : Failure) : Meaning α := .error ⟨0, f⟩

def inside : Meaning α → Meaning α
  | .ok a => .ok a
  | .error r => .error { r with depth := r.depth + 1 }

def both (a : Meaning α) (b : Meaning β) : Meaning (α × β) :=
  match a, b with
  | .ok a, .ok b => .ok (a, b)
  | .error r, .ok _ => .error r
  | .ok _, .error r => .error r
  | .error r, .error t => .error (if t.depth < r.depth then t else r)

def all : List (Meaning α) → Meaning (List α)
  | [] => .ok []
  | a :: rest => (both a (all rest)).map fun (a, others) => a :: others

def ofScalar (a : Except Failure α) : Meaning α := a.mapError fun f => ⟨0, f⟩

end Meaning

def scalarMeaning (kind : Kind) (s : List Char) : Meaning Value :=
  match kind with
  | .null => .ok .null
  | .truth => (Meaning.ofScalar (truthOf s)).map .bool
  | .integer => (Meaning.ofScalar (integerOf s)).map .integer
  | .number => (Meaning.ofScalar (numberOf s)).map .number
  | .time => Meaning.ofScalar (timeOf s)
  | .text => .ok (.text (String.ofList s))
  | .bytes =>
    if s.all fun c => c.toNat < 0x80 then
      match decodeBase64? s with
      | some b => .ok (.bytes b)
      | none => .fail .malformed
    else .fail .malformed
  | .list | .map | .set | .orderedMap | .pairs => Meaning.inside (.fail .malformed)
  | .merge | .standIn | .foreign => .fail .malformed

def Kind.isCollection : Kind → Bool
  | .list | .map | .set | .orderedMap | .pairs => true
  | _ => false

namespace Node

def kind : Node → Kind
  | .scalar k _ => k
  | .sequence k _ => k
  | .mapping k _ => k
  | .around isMapping => if isMapping then .map else .list

/-- The text that a value stands for where a scalar is wanted: its own, or that of the entry of a
mapping whose key is the equals sign. -/
def scalarText? : Node → Option (List Char)
  | .scalar _ s => some s
  | .mapping _ entries => entryText? entries
  | _ => none
where
  /-- The text of the first entry whose key is the equals sign. -/
  entryText? : List (Node × Node) → Option (List Char)
  | [] => none
  | (k, v) :: rest => if k.kind = .standIn then scalarText? v else entryText? rest

/-- An entry whose key and value have been given a meaning. -/
abbrev Entry := Meaning Value × Meaning Value

def setOf : Value → Value
  | .map entries => .set (entries.map Prod.fst)
  | v => v

/-- The value of the entries of a mapping, merged ones first; later ones replace earlier ones. -/
def mappingOf : Except Failure (List Entry × List Entry) → Meaning Value
  | .error f => .fail f
  | .ok (merged, own) =>
    (Meaning.all ((merged ++ own).map fun (k, v) => k.both v)).map Value.ofEntries

/-- A value of a kind that does not fit what is written. -/
def refused (k : Kind) : Meaning Value :=
  if k.isCollection then Meaning.inside (.fail .malformed) else .fail .malformed

mutual

def meaning : Node → Meaning Value
  | .scalar k s => scalarMeaning k s
  | .around isMapping => .ok (.around isMapping)
  | .sequence .list items => Meaning.inside ((Meaning.all (meanings items)).map .list)
  | .sequence .orderedMap items | .sequence .pairs items =>
    Meaning.inside ((Meaning.all (pairs items)).map .list)
  | .sequence k _ => refused k
  | .mapping .map es => Meaning.inside (mappingOf (entries es))
  | .mapping .set es => Meaning.inside ((mappingOf (entries es)).map setOf)
  | .mapping k es =>
    match scalarText?.entryText? es with
    | some s => if k.isCollection then refused k else scalarMeaning k s
    | none => refused k

def meanings : List Node → List (Meaning Value)
  | [] => []
  | n :: rest => meaning n :: meanings rest

/-- The meanings of items that are mappings of one entry each. -/
def pairs : List Node → List (Meaning Value)
  | [] => []
  | .mapping _ [(k, v)] :: rest =>
    ((meaning k).both (meaning v)).map (fun (k, v) => .tuple [k, v]) :: pairs rest
  | _ :: rest => .fail .malformed :: pairs rest

/-- The entries of a mapping: those that are merged into it, and its own. -/
def entries : List (Node × Node) → Except Failure (List Entry × List Entry)
  | [] => .ok ([], [])
  | (k, v) :: rest =>
    if k.kind = .merge then do
      let here ← merged v
      let (merged, own) ← entries rest
      return (here ++ merged, own)
    else do
      let (merged, own) ← entries rest
      let key :=
        match k with
        | .scalar .standIn s => .ok (.text (String.ofList s))
        | k => if k.kind.isCollection then .fail .malformed else meaning k
      return (merged, (key, meaning v) :: own)

/-- The entries that a value merges into a mapping: its own, or those of the mappings in a list, of
which earlier ones count more. -/
def merged : Node → Except Failure (List Entry)
  | .mapping _ es => do
    let (merged, own) ← entries es
    return merged ++ own
  | .sequence _ items => mergedAll items
  | .around true => .ok []
  | _ => .error .malformed

/-- The entries of the mappings in a list, the last one first. -/
def mergedAll : List Node → Except Failure (List Entry)
  | [] => .ok []
  | .mapping _ es :: rest => do
    let (merged, own) ← entries es
    return (← mergedAll rest) ++ merged ++ own
  | .around true :: rest => mergedAll rest
  | _ :: _ => .error .malformed

end

end Node

def isPrintable (c : Char) : Bool :=
  let n := c.toNat
  n == 9 || n == 10 || (0x20 ≤ n && n ≤ 0x7E) || n == 0x85 || (0xA0 ≤ n && n ≤ 0xD7FF) ||
    (0xE000 ≤ n && n ≤ 0xFFFD) || 0x10000 ≤ n

/-- The value of the only document in a text, null if there is none. A byte order mark at the
beginning does not count. -/
def read (text : List Char) : Except Failure Value := do
  let text := unifyBreaks text
  if !text.all isPrintable then .error .malformed
  else
    let text := if text.head? == some byteOrderMark then text.drop 1 else text
    match ← Node.read text with
    | none => return .null
    | some n => n.meaning.mapError Refusal.failure

end Stencil.Yaml
