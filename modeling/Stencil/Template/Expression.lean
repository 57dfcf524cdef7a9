import Stencil.Template.Cursor

/-!
The grammar of expressions. Reading an expression checks it and tells what kind of value stands
there, on which line, and whether it can be assigned to. Readers take the reader for nested
expressions as an argument; `expression` ties the knot, with an allowance for the depth of nesting.
-/
namespace Stencil.Template

open Reading

inductive Form where
  | const | name | nsref | tuple | list | dict | getattr | getitem | call | filter | test
  | not | neg | pos | compare | condexpr | and | or | concat | binary (op : Operator)
  deriving DecidableEq, Repr

def Form.text : Form → String
  | .const => "const" | .name => "name" | .nsref => "nsref" | .tuple => "tuple" | .list => "list"
  | .dict => "dict" | .getattr => "getattr" | .getitem => "getitem" | .call => "call"
  | .filter => "filter" | .test => "test" | .not => "not" | .neg => "neg" | .pos => "pos"
  | .compare => "compare" | .condexpr => "condexpr" | .and => "and" | .or => "or"
  | .concat => "concat" | .binary op => op.label

structure Operand where
  form : Form
  line : Nat
  assignable : Bool := false

/-- A reader for expressions; the flag admits conditional ones. -/
abbrev Inner := Bool → Reading Operand

def constantNames : List String := ["true", "false", "True", "False", "none", "None"]

/-- Between the items of a sequence a comma is needed; it may follow the last one if `trailing`. -/
def betweenItems (first trailing : Bool) (closer : Operator) : Reading Bool := do
  if !first then expectOperator .comma
  if trailing then return !(← atOperator closer) else return true

/-- Items up to a closing bracket, which is moved over as well. -/
def itemsUntil (closer : Operator) (trailing : Bool) (item : Reading Unit) : Reading Nat := do
  let count ← repeating 0 fun (count : Nat) => do
    if ← atOperator closer then return none
    if ← betweenItems (count == 0) trailing closer then
      item
      return some (count + 1)
    else return none
  expectOperator closer
  return count

def listLiteral (inner : Inner) : Reading Operand := do
  let line ← line
  expectOperator .lbracket
  let _ ← itemsUntil .rbracket true (discard (inner true))
  return ⟨.list, line, false⟩

def dictLiteral (inner : Inner) : Reading Operand := do
  let line ← line
  expectOperator .lbrace
  let _ ← itemsUntil .rbrace true do
    let _ ← inner true
    expectOperator .colon
    let _ ← inner true
  return ⟨.dict, line, false⟩

/-- Is a closing parenthesis or the end of the group in front? -/
def atTupleEnd : Reading Bool := do
  if ← atEnd then return true else atOperator .rparen

/-- What a tuple has been read to hold: its items so far, and the line of its last comma. -/
structure TupleState where
  items : List Operand
  line : Nat
  hasComma : Bool
  done : Bool

/-- One expression, or a tuple of several with commas between them. No expression at all is a tuple
between parentheses only. -/
def tuple (item : Reading Operand) (parenthesized : Bool) : Reading Operand := do
  let start ← line
  let final ← repeating (⟨[], start, false, false⟩ : TupleState) fun state => do
    if state.done then return none
    if !state.items.isEmpty then expectOperator .comma
    if ← atTupleEnd then return none
    let operand ← item
    let items := state.items ++ [operand]
    if ← atOperator .comma then return some ⟨items, ← line, true, false⟩
    else return some ⟨items, state.line, state.hasComma, true⟩
  if final.hasComma then return ⟨.tuple, final.line, final.items.all Operand.assignable⟩
  match final.items with
  | operand :: _ => return operand
  | [] =>
    if parenthesized then return ⟨.tuple, final.line, true⟩
    else fail (.noExpression (← description))

def stringLiterals (line : Nat) : Reading Operand := do
  repeating () fun _ => do
    match ← frontWord with
    | some (.string _) =>
      advance
      return some ()
    | _ => return none
  return ⟨.const, line, false⟩

/-- A name: a constant, a variable, or with `attributes` an attribute of a variable. -/
def nameOperand (attributes : Bool) (name : String) (line : Nat) : Reading Operand := do
  if constantNames.contains name then return ⟨.const, line, false⟩
  if attributes then
    if ← skipOperator .dot then
      let _ ← anyName
      return ⟨.nsref, line, true⟩
  return ⟨.name, line, true⟩

/-- A name, a literal, or an expression between brackets. -/
def primary (inner : Inner) (attributes : Bool) : Reading Operand := do
  let start ← line
  match ← frontWord with
  | some (.name s) =>
    advance
    nameOperand attributes s start
  | some (.string _) => stringLiterals start
  | some (.integer _) | some (.float _) =>
    advance
    return ⟨.const, start, false⟩
  | some (.operator .lparen) =>
    advance
    let operand ← tuple (inner true) true
    expectOperator .rparen
    return operand
  | some (.operator .lbracket) => listLiteral inner
  | some (.operator .lbrace) => dictLiteral inner
  | _ => fail (.unexpected (← description))

/-- Is a closing square bracket or a comma in front? -/
def atSliceEnd : Reading Bool := do
  if ← atOperator .rbracket then return true else atOperator .comma

/-- An index, or a slice of up to three parts that may be missing. -/
def subscript (inner : Inner) : Reading Unit := do
  let slice ←
    if ← skipOperator .colon then pure true
    else do
      let _ ← inner true
      skipOperator .colon
  if slice then
    if !(← atOperator .colon) then
      if !(← atSliceEnd) then discard (inner true)
    if ← skipOperator .colon then
      if !(← atSliceEnd) then discard (inner true)

def access (inner : Inner) : Reading Operand := do
  let start ← line
  if ← skipOperator .dot then
    let key ← frontWord
    let keyLine ← line
    advance
    match key with
    | some (.name _) => return ⟨.getattr, start, false⟩
    | some (.integer _) => return ⟨.getitem, start, false⟩
    | _ => failAt keyLine .noAttribute
  else
    expectOperator .lbracket
    let _ ← itemsUntil .rbracket false (subscript inner)
    return ⟨.getitem, start, false⟩

structure Arguments where
  any : Bool := false
  keyword : Bool := false
  star : Bool := false
  doubleStar : Bool := false

/-- One argument of a call: spread over positions or names, given by name, or by position. -/
def argument (inner : Inner) (start : Nat) (so : Arguments) : Reading Arguments := do
  let ensure (ok : Bool) : Reading Unit := if ok then pure () else failAt start .badArguments
  if ← atOperator .mul then
    ensure (!so.star && !so.doubleStar)
    advance
    let _ ← inner true
    return { so with any := true, star := true }
  else if ← atOperator .pow then
    ensure (!so.doubleStar)
    advance
    let _ ← inner true
    return { so with any := true, doubleStar := true }
  else
    let named ←
      match ← frontWord with
      | some (.name _) => pure ((← second) == some (.operator .assign))
      | _ => pure false
    if named then
      ensure (!so.doubleStar)
      advance
      advance
      let _ ← inner true
      return { so with any := true, keyword := true }
    else
      ensure (!so.star && !so.doubleStar && !so.keyword)
      let _ ← inner true
      return { so with any := true }

def arguments (inner : Inner) : Reading Unit := do
  let start ← line
  expectOperator .lparen
  let _ ← repeating ({} : Arguments) fun so => do
    if ← atOperator .rparen then return none
    if so.any then
      expectOperator .comma
      if ← atOperator .rparen then return none
    return some (← argument inner start so)
  expectOperator .rparen

def call (inner : Inner) : Reading Operand := do
  let start ← line
  arguments inner
  return ⟨.call, start, false⟩

def postfixes (inner : Inner) (operand : Operand) : Reading Operand :=
  repeating operand fun _ => do
    match ← frontWord with
    | some (.operator .dot) | some (.operator .lbracket) => return some (← access inner)
    | some (.operator .lparen) => return some (← call inner)
    | _ => return none

def dottedRest : Reading Unit :=
  repeating () fun _ => do
    if ← skipOperator .dot then
      let _ ← anyName
      return some ()
    else return none

/-- One filter: its name, which may have dots, and arguments. -/
def oneFilter (inner : Inner) : Reading Operand := do
  let (_, start) ← anyName
  dottedRest
  if ← atOperator .lparen then arguments inner
  return ⟨.filter, start, false⟩

def filters (inner : Inner) (operand : Operand) : Reading Operand :=
  repeating operand fun _ => do
    if ← skipOperator .pipe then return some (← oneFilter inner) else return none

/-- May the argument of a test begin here? Three names go on with the expression instead. -/
def startsTestArgument : Option Word → Bool
  | some (.name s) => s != "else" && s != "or" && s != "and"
  | some (.string _) | some (.integer _) | some (.float _) => true
  | some (.operator .lbracket) | some (.operator .lbrace) => true
  | _ => false

/-- A test of the value before it; `is` is in front. -/
def test (inner : Inner) : Reading Operand := do
  let start ← line
  advance
  let negated ← skipName "not"
  let _ ← anyName
  dottedRest
  if ← atOperator .lparen then arguments inner
  else if startsTestArgument (← frontWord) then
    if ← atName "is" then fail .chainedTests
    let _ ← postfixes inner (← primary inner false)
  return ⟨if negated then .not else .test, start, false⟩

def refinements (inner : Inner) (operand : Operand) : Reading Operand :=
  repeating operand fun operand => do
    match ← frontWord with
    | some (.operator .pipe) => return some (← filters inner operand)
    | some (.name "is") => return some (← test inner)
    | some (.operator .lparen) => return some (← call inner)
    | _ => return none

def frontSign : Reading (Option Form) := do
  match ← frontWord with
  | some (.operator .sub) => return some .neg
  | some (.operator .add) => return some .pos
  | _ => return none

/-- A value with signs before it; filters and tests apply to the whole. -/
def unary (inner : Inner) : Reading Operand := do
  let start ← line
  let outermost ← frontSign
  repeating () fun _ => do
    match ← frontSign with
    | some _ =>
      advance
      return some ()
    | none => return none
  let operand ← postfixes inner (← primary inner false)
  refinements inner
    (match outermost with
      | some form => ⟨form, start, false⟩
      | none => operand)

/-- Operands with operators between them. The result is reported for the line where its last
operator's left side began, as far as that is known: what stands behind the operator before. -/
def leftChain (operand : Reading Operand) (operator : Reading (Option Form)) : Reading Operand := do
  let start ← line
  let first ← operand
  let (result, _) ← repeating (first, start) fun (_, start) => do
    match ← operator with
    | none => return none
    | some form =>
      let _ ← operand
      return some (⟨form, start, false⟩, ← line)
  return result

/-- Moves over one of some operators, which gives the form. -/
def binaryOperator (ops : List Operator) : Reading (Option Form) := do
  match ← frontWord with
  | some (.operator op) =>
    if ops.contains op then
      advance
      return some (.binary op)
    else return none
  | _ => return none

/-- Moves over a name, which gives the form. -/
def namedOperator (name : String) (form : Form) : Reading (Option Form) := do
  if ← skipName name then return some form else return none

def power (inner : Inner) : Reading Operand := leftChain (unary inner) (binaryOperator [.pow])

def product (inner : Inner) : Reading Operand :=
  leftChain (power inner) (binaryOperator [.mul, .div, .floordiv, .mod])

def concatenation (inner : Inner) : Reading Operand := do
  let start ← line
  let first ← product inner
  repeating first fun _ => do
    if ← skipOperator .tilde then
      let _ ← product inner
      return some ⟨.concat, start, false⟩
    else return none

def sum (inner : Inner) : Reading Operand :=
  leftChain (concatenation inner) (binaryOperator [.add, .sub])

def comparison : Reading Bool := do
  match ← frontWord with
  | some (.operator op) =>
    if [Operator.eq, .ne, .lt, .lteq, .gt, .gteq].contains op then
      advance
      return true
    else return false
  | some (.name "in") =>
    advance
    return true
  | some (.name "not") =>
    if (← second) == some (.name "in") then
      advance
      advance
      return true
    else return false
  | _ => return false

/-- A chain of comparisons, reported for the line behind it. -/
def compare (inner : Inner) : Reading Operand := do
  let first ← sum inner
  repeating first fun _ => do
    if ← comparison then
      let _ ← sum inner
      return some ⟨.compare, ← line, false⟩
    else return none

def negation (inner : Inner) : Reading Operand := do
  let start ← line
  let negated ← atName "not"
  repeating () fun _ => do
    if ← skipName "not" then return some () else return none
  let operand ← compare inner
  return if negated then ⟨.not, start, false⟩ else operand

def conjunction (inner : Inner) : Reading Operand :=
  leftChain (negation inner) (namedOperator "and" .and)

def disjunction (inner : Inner) : Reading Operand :=
  leftChain (conjunction inner) (namedOperator "or" .or)

/-- Conditional expressions: a value, its condition, and perhaps another value. -/
def conditional (inner : Inner) : Reading Operand := do
  let start ← line
  let first ← disjunction inner
  let (result, _) ← repeating (first, start) fun (_, start) => do
    if ← skipName "if" then
      let _ ← disjunction inner
      if ← skipName "else" then discard (inner true)
      return some (⟨.condexpr, start, false⟩, ← line)
    else return none
  return result

/-- An expression with at most `depth` levels of nesting. -/
def expressionWithin : Nat → Inner
  | 0, _ => throw .nestedTooDeeply
  | depth + 1, conditions =>
    if conditions then conditional (expressionWithin depth)
    else disjunction (expressionWithin depth)

/-- An expression. Each level of nesting takes a symbol, so the allowance is never used up. -/
def expression (conditions : Bool) : Reading Operand := do
  expressionWithin ((← get).length + 1) conditions

def expressionList (conditions : Bool) : Reading Operand := tuple (expression conditions) false

end Stencil.Template
