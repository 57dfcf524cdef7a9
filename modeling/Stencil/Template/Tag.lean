import Stencil.Template.Expression

/-!
The statements of a template, each by what follows its name inside the delimiters. Reading a
statement tells whether it is complete or opens a block, and which names may then come next.
-/
namespace Stencil.Template

open Reading

structure Opening where
  wanted : List String
  label : Option String := none
  /-- The block must hold white space only. -/
  required : Bool := false

/-- Something that is assigned to: one target, or several with commas between them. -/
def target (attributes : Bool) : Reading Operand := do
  let operand ← tuple (primary expression attributes) false
  if operand.assignable then return operand
  else failAt operand.line (.notAssignable operand.form.text)

def nameTarget : Reading (String × Nat) := do
  let (s, line) ← anyName
  if constantNames.contains s then failAt line (.notAssignable Form.name.text) else return (s, line)

def skipContext (word : Option Word) : Reading Bool := do
  if (word == some (.name "with") || word == some (.name "without")) &&
      (← second) == some (.name "context") then
    advance
    advance
    return true
  else return false

def contextClause : Reading Unit := do discard (skipContext (← frontWord))

/-- `for`: a target, a sequence, and perhaps a condition. -/
def forHead : Reading Unit := do
  let _ ← target false
  expectName "in"
  let _ ← expressionList false
  if ← skipName "if" then discard (expression true)
  let _ ← skipName "recursive"

/-- `set`: a target and a value, or a target with filters and no value. -/
def setHead : Reading (Option Opening) := do
  let _ ← target true
  if ← skipOperator .assign then
    let _ ← expressionList true
    return none
  else
    let _ ← filters expression ⟨.const, 0, false⟩
    return some { wanted := ["endset"] }

def withHead : Reading Unit :=
  discard <| repeating true fun first => do
    if ← atEnd then return none
    if !first then expectOperator .comma
    let _ ← target false
    expectOperator .assign
    let _ ← expression true
    return some false

def printHead : Reading Unit :=
  discard <| repeating true fun first => do
    if ← atEnd then return none
    if !first then expectOperator .comma
    let _ ← expression true
    return some false

def includeHead : Reading Unit := do
  let _ ← expression true
  if ← atName "ignore" then
    if (← second) == some (.name "missing") then
      advance
      advance
  contextClause

def importHead : Reading Unit := do
  let _ ← expression true
  expectName "as"
  let _ ← nameTarget
  contextClause

/-- Is the clause on the context in front? After an imported name a string literal may spell its
first word. -/
def skipContextAfterName : Reading Bool := do
  match ← frontWord with
  | some (.string s) =>
    if s == Text.units "with" || s == Text.units "without" then skipContext (some (.name "with"))
    else return false
  | word => skipContext word

/-- One imported name, perhaps with another name here; tells whether more may follow. -/
def importedName : Reading Bool := do
  match ← frontWord with
  | some (.name _) =>
    if ← skipContext (← frontWord) then return false
    let (s, line) ← nameTarget
    if s.startsWith "_" then failAt line .privateImport
    if ← skipName "as" then discard nameTarget
    if ← skipContextAfterName then return false
    atOperator .comma
  | _ => failExpecting "name"

def fromHead : Reading Unit := do
  let _ ← expression true
  expectName "import"
  let _ ← repeating (true, true) fun (first, more) => do
    if !more then return none
    if !first then expectOperator .comma
    return some (false, ← importedName)

/-- `block`: a name, and perhaps how the block is scoped and filled. -/
def blockHead : Reading Opening := do
  let (name, _) ← anyName
  let _ ← skipName "scoped"
  let required ← skipName "required"
  if ← atOperator .sub then fail .hyphenInBlockName
  return { wanted := ["endblock"], label := some name, required }

/-- Parameters between parentheses; behind one with a default all have defaults. -/
def parameters : Reading Unit := do
  expectOperator .lparen
  let _ ← repeating (true, false) fun (first, defaults) => do
    if ← atOperator .rparen then return none
    if !first then expectOperator .comma
    let _ ← nameTarget
    if ← skipOperator .assign then
      let _ ← expression true
      return some (false, true)
    else if defaults then fail .missingDefault
    else return some (false, false)
  expectOperator .rparen

def callHead (line : Nat) : Reading Unit := do
  if ← atOperator .lparen then parameters
  let operand ← expression true
  if operand.form != .call then failAt line .notACall

/-- What follows the name of a statement. Statements without an opening are complete. -/
def statement (name : String) (line : Nat) : Option (Reading (Option Opening)) :=
  let complete (head : Reading Unit) : Option (Reading (Option Opening)) :=
    some do
      head
      return none
  let opens (wanted : List String) (head : Reading Unit) : Option (Reading (Option Opening)) :=
    some do
      head
      return some { wanted }
  match name with
  | "for" => opens ["endfor", "else"] forHead
  | "if" => opens ["elif", "else", "endif"] (discard (expressionList false))
  | "block" => some (some <$> blockHead)
  | "extends" => complete (discard (expression true))
  | "print" => complete printHead
  | "macro" =>
    opens ["endmacro"] do
      let _ ← nameTarget
      parameters
  | "include" => complete includeHead
  | "from" => complete fromHead
  | "import" => complete importHead
  | "set" => some setHead
  | "with" => opens ["endwith"] withHead
  | "autoescape" => opens ["endautoescape"] (discard (expression true))
  | "call" => opens ["endcall"] (callHead line)
  | "filter" =>
    opens ["endfilter"] do
      let _ ← oneFilter expression
      discard (filters expression ⟨.filter, line, false⟩)
  | "do" => complete (discard (expressionList true))
  | "break" => complete (pure ())
  | "continue" => complete (pure ())
  | _ => none

/-- The end of a statement that opens a block or a section, before which a colon may stand. -/
def openingEnd : Reading Unit := do
  let _ ← skipOperator .colon
  expectEnd .tag

end Stencil.Template
