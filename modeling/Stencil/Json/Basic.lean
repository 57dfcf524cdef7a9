import Stencil.Number.Double
import Stencil.Text.Units

/-!
The values that the generated modules hold: whole numbers of any size, floating-point numbers,
strings of code units, lists, and objects whose fields keep their order.
-/
namespace Stencil

open Number Text

inductive Json where
  | null
  | bool (b : Bool)
  | integer (n : Int)
  | number (x : Double)
  | text (s : Units)
  | list (items : List Json)
  | object (fields : List (Units × Json))
  deriving Inhabited

namespace Json

def ofString (s : String) : Json := .text (units s)

/-- An object whose field names are written out. -/
def record (fields : List (String × Json)) : Json :=
  .object (fields.map fun (name, value) => (units name, value))

/-- The first field of a name, if the value is an object that has it. -/
def field? (name : String) : Json → Option Json
  | .object fields => (fields.find? fun f => f.1 == units name).map Prod.snd
  | _ => none

end Json

end Stencil
