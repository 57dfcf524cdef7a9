import Stencil.CompileError
import Stencil.Log
import Stencil.Options.Switch

/-!
Minification of markup before a template is read. The work is done by a markup engine; some switches
have no counterpart there, and each of them is reported once.
-/
namespace Stencil

open Options

structure MarkupArguments where
  keepComments : Bool
  keepClosingTags : Bool
  keepHtmlAndHeadOpeningTags : Bool
  preserveBraceTemplates : Bool
  deriving DecidableEq, Repr

abbrev MarkupEngine := MarkupArguments → List Char → Except String (List Char)

namespace Minify

/-- What the engine is told for some settings. Template delimiters are always left alone. -/
def arguments (o : MinifyOptions) : MarkupArguments :=
  ⟨!o.isOn .removeComments, o.isOn .keepClosingSlash, !o.isOn .removeOptionalTags, true⟩

/-- The switches that the engine has no counterpart for, in the order in which they are reported. -/
def ineffective : List Switch :=
  [.conservativeCollapse, .removeRedundantAttributes, .preserveLineBreaks,
    .collapseBooleanAttributes, .removeEmptyAttributes, .removeStyleLinkTypeAttributes,
    .removeIgnored, .removeEmptyElements, .lint, .caseSensitive, .minifyUrls]

/-- The switches to report for some settings, when some have been reported before. -/
def newlyIneffective (reported : List Switch) (o : MinifyOptions) : List Switch :=
  ineffective.filter fun s => o.isOn s && !reported.contains s

def ineffectiveRecord (s : Switch) : LogRecord :=
  ⟨.debug, .minify, "Minify option " ++ s.name ++ " has no effect"⟩

def refusal (reason : String) : CompileError :=
  ⟨.minify, "minification failed: " ++ reason, none, none⟩

def run (engine : MarkupEngine) (o : MinifyOptions) (source : List Char) :
    Except CompileError (List Char) :=
  (engine (arguments o) source).mapError refusal

/-- What comes of minifying some markup: the switches reported so far, what was reported this time,
and the smaller markup or the error. -/
structure Minified where
  reported : List Switch
  records : List LogRecord
  result : Except CompileError (List Char)

/-- Minifies markup. Switches are reported before the engine is asked, whatever it answers. -/
def minified (engine : MarkupEngine) (reported : List Switch) (o : MinifyOptions)
    (source : List Char) : Minified :=
  let new := newlyIneffective reported o
  ⟨reported ++ new, new.map ineffectiveRecord, run engine o source⟩

end Minify

end Stencil
