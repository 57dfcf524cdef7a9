/-!
Finding one text inside another.
-/
namespace Stencil.Text

/-- The parts before and after the leftmost place where `pattern` stands in the text. -/
def splitAtFirst (pattern : List Char) : List Char → Option (List Char × List Char)
  | [] => if pattern.isEmpty then some ([], []) else none
  | c :: rest =>
    if pattern.isPrefixOf (c :: rest) then some ([], (c :: rest).drop pattern.length)
    else (splitAtFirst pattern rest).map fun (before, after) => (c :: before, after)

/-- The leftmost place where `pattern` stands in the text. -/
def position? (pattern s : List Char) : Option Nat :=
  (splitAtFirst pattern s).map fun (before, _) => before.length

/-- The text with `replacement` in the leftmost place where `pattern` stands, if there is one. -/
def replaceFirst (pattern replacement s : List Char) : List Char :=
  match splitAtFirst pattern s with
  | some (before, after) => before ++ replacement ++ after
  | none => s

/-- The text after the last place where `separator` stands, or the whole text. -/
def afterLast (separator : Char) (s : List Char) : List Char :=
  (s.reverse.takeWhile (· != separator)).reverse

end Stencil.Text
