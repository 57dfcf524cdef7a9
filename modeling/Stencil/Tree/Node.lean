import Stencil.Tree.Token

/-!
Token trees: what a module carries for the runtime to work on. Text and printed values are leaves;
a statement is a leaf or a block with a body and further branches.
-/
namespace Stencil.Tree

open Text

structure Head where
  tag : Units
  line : Int
  stack : List Token
  deriving DecidableEq, Repr

mutual

inductive Node where
  | raw (value : Units)
  | output (stack : List Token)
  | leaf (head : Head)
  | block (head : Head) (output : List Node) (branches : List Branch)

inductive Branch where
  | mk (head : Head) (output : List Node)

end

namespace Branch

def head : Branch → Head
  | mk head _ => head

def output : Branch → List Node
  | mk _ output => output

end Branch

def Head.fields (h : Head) : List (String × Json) :=
  [("type", .text h.tag), ("line", .integer h.line), ("stack", .list (h.stack.map Token.toJson))]

def logicRecord (fields : List (String × Json)) : Json :=
  .record [("type", .ofString "logic"), ("token", .record fields)]

mutual

/-- A node in the module. A block without branches has no field for them. -/
def Node.toJson : Node → Json
  | .raw value => .record [("type", .ofString "raw"), ("value", .text value)]
  | .output stack =>
    .record [("type", .ofString "output"), ("stack", .list (stack.map Token.toJson))]
  | .leaf head => logicRecord head.fields
  | .block head output branches =>
    logicRecord
      (head.fields ++ [("output", .list (nodesJson output))] ++
        match branches with
        | [] => []
        | b :: rest => [("branches", .list (branchesJson (b :: rest)))])

def nodesJson : List Node → List Json
  | [] => []
  | n :: rest => n.toJson :: nodesJson rest

def Branch.toJson : Branch → Json
  | .mk head output => .record (head.fields ++ [("output", .list (nodesJson output))])

def branchesJson : List Branch → List Json
  | [] => []
  | b :: rest => b.toJson :: branchesJson rest

end

def treeJson (nodes : List Node) : Json := .list (nodesJson nodes)

end Stencil.Tree
