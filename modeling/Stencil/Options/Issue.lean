/-!
What is wrong with an option document, and where.
-/
namespace Stencil.Options

inductive Step where
  | key (name : String)
  | index (n : Int)
  deriving DecidableEq, Repr

inductive RecordKind where
  | transform
  | minify
  deriving DecidableEq, Repr

def RecordKind.text : RecordKind → String
  | .transform => "TransformOptions"
  | .minify => "MinifyOptions"

inductive Complaint where
  | noBool
  | unreadableBool
  | noList
  | noText
  | undecodable
  | noMapping
  | noRecord (kind : RecordKind)
  | tooManyDigits
  deriving DecidableEq, Repr

def Complaint.code : Complaint → String
  | .noBool => "bool_type"
  | .unreadableBool => "bool_parsing"
  | .noList => "list_type"
  | .noText => "string_type"
  | .undecodable => "string_unicode"
  | .noMapping => "dict_type"
  | .noRecord _ => "model_type"
  | .tooManyDigits => "value_error"

def Complaint.message : Complaint → String
  | .noBool => "Input should be a valid boolean"
  | .unreadableBool => "Input should be a valid boolean, unable to interpret input"
  | .noList => "Input should be a valid list"
  | .noText => "Input should be a valid string"
  | .undecodable =>
    "Input should be a valid string, unable to parse raw data as a unicode string"
  | .noMapping => "Input should be a valid dictionary"
  | .noRecord kind => "Input should be a valid dictionary or instance of " ++ kind.text
  | .tooManyDigits =>
    "Value error, Exceeds the limit (4300 digits) for integer string conversion; use " ++
      "sys.set_int_max_str_digits() to increase the limit"

structure Issue where
  path : List Step
  complaint : Complaint
  deriving DecidableEq, Repr

def Issue.under (step : Step) (i : Issue) : Issue := { i with path := step :: i.path }

abbrev Checked (α : Type) := Except (List Issue) α

namespace Checked

def fail (complaint : Complaint) : Checked α := .error [⟨[], complaint⟩]

/-- The result, with issues as seen from outside an entry. -/
def under (step : Step) : Checked α → Checked α
  | .ok a => .ok a
  | .error issues => .error (issues.map (Issue.under step))

def both (a : Checked α) (b : Checked β) : Checked (α × β) :=
  match a, b with
  | .ok a, .ok b => .ok (a, b)
  | .error i, .ok _ => .error i
  | .ok _, .error j => .error j
  | .error i, .error j => .error (i ++ j)

def all : List (Checked α) → Checked (List α)
  | [] => .ok []
  | a :: rest => (both a (all rest)).map fun (a, others) => a :: others

end Checked

end Stencil.Options
