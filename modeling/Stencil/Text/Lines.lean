/-!
Lines of a text, whatever convention ended them: a carriage return with a line feed, either one
alone. Everything that reads a template sees its lines only.
-/
namespace Stencil.Text

/-- The lines of a text, without their ends; there is one more line than there are breaks. -/
def lines : List Char → List (List Char)
  | [] => [[]]
  | '\r' :: '\n' :: rest => [] :: lines rest
  | '\r' :: rest => [] :: lines rest
  | '\n' :: rest => [] :: lines rest
  | c :: rest =>
    match lines rest with
    | [] => [[c]]
    | first :: others => (c :: first) :: others

/-- Lines put together again with one line feed between two of them. -/
def joinLines : List (List Char) → List Char
  | [] => []
  | [line] => line
  | line :: next :: rest => line ++ '\n' :: joinLines (next :: rest)

/-- The lines without the empty one that a final break leaves. -/
def dropFinalBreak (ls : List (List Char)) : List (List Char) :=
  match ls.reverse with
  | [] :: others => others.reverse
  | _ => ls

/-- The text with line feeds only, and without one break at its end. -/
def normalizeBreaks (s : List Char) : List Char := joinLines (dropFinalBreak (lines s))

def unifyBreaks (s : List Char) : List Char := joinLines (lines s)

/-- How many line feeds a text holds. -/
def countBreaks (s : List Char) : Nat := s.count '\n'

end Stencil.Text
