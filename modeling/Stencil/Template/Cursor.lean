import Stencil.Template.Failure
import Stencil.Template.Piece

/-!
Reading the symbols of one group. A reader sees the symbol in front, or the edge of the group when
none is left, and moves over it. Symbols are loaded one ahead: to move onto a place where the
source could not be cut is to fail with that failure.
-/
namespace Stencil.Template

inductive Edge where
  /-- A closing delimiter on a line; right behind it the source may have no further piece. -/
  | closed (kind : Delimiter) (line : Nat) (beyond : Option Failure)
  /-- The end of the template, reported for the line of its last token. -/
  | ended (line : Nat)
  | failed (failure : Failure)

def Edge.line : Edge → Nat
  | .closed _ line _ => line
  | .ended line => line
  | .failed _ => 0

def Edge.description : Edge → String
  | .closed kind _ _ => kind.endDescription
  | _ => "end of template"

abbrev Reading (α : Type) := ReaderT Edge (StateT (List Symbol) (Except Failure)) α

namespace Reading

def front : Reading (Option Symbol) := return (← get).head?

def frontWord : Reading (Option Word) := return (← get).head?.map Symbol.word

def line : Reading Nat := return ((← get).head?.map Symbol.line).getD (← read).line

def description : Reading String :=
  return ((← get).head?.map fun s => s.word.description).getD (← read).description

def failAt (line : Nat) (cause : Cause) : Reading α := throw (.fault ⟨cause, line⟩)

def fail (cause : Cause) : Reading α := do failAt (← line) cause

def checkFront : Reading Unit := do
  match ← get, ← read with
  | [], .failed failure => throw failure
  | _, _ => pure ()

/-- Moves over what is in front. At the end of the template the end stays in front. -/
def advance : Reading Unit := do
  match ← get with
  | _ :: rest =>
    set rest
    checkFront
  | [] =>
    match ← read with
    | .closed _ _ (some failure) => throw failure
    | _ => pure ()

def second : Reading (Option Word) := do
  match ← get, ← read with
  | [_], .failed failure => throw failure
  | _ :: next :: _, _ => pure (some next.word)
  | _, _ => pure none

def atOperator (op : Operator) : Reading Bool := return (← frontWord) == some (.operator op)

def atName (name : String) : Reading Bool := return (← frontWord) == some (.name name)

def skipOperator (op : Operator) : Reading Bool := do
  if ← atOperator op then
    advance
    return true
  else return false

def skipName (name : String) : Reading Bool := do
  if ← atName name then
    advance
    return true
  else return false

/-- Fails because something else had to be in front. -/
def failExpecting (wanted : String) : Reading α := do
  match ← get, ← read with
  | [], .ended _ => fail (.endsBefore wanted)
  | _, _ => fail (.mismatch wanted (← description))

def expectOperator (op : Operator) : Reading Unit := do
  if !(← skipOperator op) then failExpecting op.text

def expectName (name : String) : Reading Unit := do
  if !(← skipName name) then failExpecting name

/-- Moves over a name that has to be in front, and gives it with its line. -/
def anyName : Reading (String × Nat) := do
  match ← front with
  | some ⟨line, .name s⟩ =>
    advance
    return (s, line)
  | _ => failExpecting "name"

def expectEnd (kind : Delimiter) : Reading Unit := do
  match ← get, ← read with
  | [], .closed .. => pure ()
  | _, _ => failExpecting kind.endDescription

def atEnd : Reading Bool := do
  match ← get, ← read with
  | [], .closed .. => return true
  | _, _ => return false

/-- Repeats a step until it gives no new value; there are at most as many steps as symbols, because
a step that gives a value has moved. -/
def iterate (step : α → Reading (Option α)) : Nat → α → Reading α
  | 0, _ => throw .nestedTooDeeply
  | steps + 1, a => do
    match ← step a with
    | some next => iterate step steps next
    | none => return a

/-- Repeats a step until it gives no new value. -/
def repeating (a : α) (step : α → Reading (Option α)) : Reading α := do
  iterate step ((← get).length + 1) a

end Reading

def Reading.run (reading : Reading α) (edge : Edge) (symbols : List Symbol) : Except Failure α :=
  (StateT.run (ReaderT.run reading edge) symbols).map Prod.fst

end Stencil.Template
