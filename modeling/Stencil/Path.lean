import Stencil.Module.Basic
import Stencil.Options.Basic
import Stencil.Text.Lower
import Stencil.Text.Search

/-!
Paths of template files: which files are templates, and the names that templates get.
-/
namespace Stencil.Path

open Text Options

/-- The part of a file name from its last dot on; dots that the name begins with do not count. -/
def suffix (segment : List Char) : List Char :=
  let tail := afterLast '.' segment
  let stem := segment.take (segment.length - (tail.length + 1))
  if segment.contains '.' && stem.any (· != '.') then '.' :: tail else []

def extensionOf (path : String) : String :=
  lower (String.ofList (suffix (afterLast '/' path.toList)))

/-- A file is a template if it has an extension and that is one of those given, in any case. -/
def isEligible (path : String) (extensions : List String) : Bool :=
  !(extensionOf path).isEmpty && (extensions.map lower).contains (extensionOf path)

/-- The path from the leftmost place on where the fragment of an alias stands, with the fragment
replaced; the first alias counts whose fragment stands in the path at all. -/
def applyAliases (path : String) : Aliases → String
  | [] => path
  | (search, replacement) :: rest =>
    match position? search.toList path.toList with
    | some n =>
      String.ofList (replaceFirst search.toList replacement.toList (path.toList.drop n))
    | none => applyAliases path rest

/-- The name of a template: left to the module loader, or its path with aliases applied. -/
def identifier (path : String) (relative : Bool) (aliases : Option Aliases) : Identifier :=
  if relative then .deferred else .literal (applyAliases path (aliases.getD []))

end Stencil.Path
