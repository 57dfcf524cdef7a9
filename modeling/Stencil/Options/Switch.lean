import Stencil.Options.Issue
import Stencil.Options.Value

/-!
The switches of markup minification. Documents may name a switch in either of two spellings; if
both are there, the one with capitals counts.
-/
namespace Stencil.Options

attribute [local instance (high)] instPowNat

inductive Switch where
  | removeComments
  | collapseWhitespace
  | conservativeCollapse
  | preserveLineBreaks
  | collapseBooleanAttributes
  | removeAttributeQuotes
  | removeRedundantAttributes
  | removeEmptyAttributes
  | removeStyleLinkTypeAttributes
  | removeOptionalTags
  | removeIgnored
  | removeEmptyElements
  | lint
  | keepClosingSlash
  | caseSensitive
  | minifyUrls
  deriving DecidableEq, Repr

namespace Switch

def all : List Switch :=
  [.removeComments, .collapseWhitespace, .conservativeCollapse, .preserveLineBreaks,
    .collapseBooleanAttributes, .removeAttributeQuotes, .removeRedundantAttributes,
    .removeEmptyAttributes, .removeStyleLinkTypeAttributes, .removeOptionalTags, .removeIgnored,
    .removeEmptyElements, .lint, .keepClosingSlash, .caseSensitive, .minifyUrls]

def name : Switch → String
  | removeComments => "remove_comments"
  | collapseWhitespace => "collapse_whitespace"
  | conservativeCollapse => "conservative_collapse"
  | preserveLineBreaks => "preserve_line_breaks"
  | collapseBooleanAttributes => "collapse_boolean_attributes"
  | removeAttributeQuotes => "remove_attribute_quotes"
  | removeRedundantAttributes => "remove_redundant_attributes"
  | removeEmptyAttributes => "remove_empty_attributes"
  | removeStyleLinkTypeAttributes => "remove_style_link_type_attributes"
  | removeOptionalTags => "remove_optional_tags"
  | removeIgnored => "remove_ignored"
  | removeEmptyElements => "remove_empty_elements"
  | lint => "lint"
  | keepClosingSlash => "keep_closing_slash"
  | caseSensitive => "case_sensitive"
  | minifyUrls => "minify_urls"

def camelName : Switch → String
  | removeComments => "removeComments"
  | collapseWhitespace => "collapseWhitespace"
  | conservativeCollapse => "conservativeCollapse"
  | preserveLineBreaks => "preserveLineBreaks"
  | collapseBooleanAttributes => "collapseBooleanAttributes"
  | removeAttributeQuotes => "removeAttributeQuotes"
  | removeRedundantAttributes => "removeRedundantAttributes"
  | removeEmptyAttributes => "removeEmptyAttributes"
  | removeStyleLinkTypeAttributes => "removeStyleLinkTypeAttributes"
  | removeOptionalTags => "removeOptionalTags"
  | removeIgnored => "removeIgnored"
  | removeEmptyElements => "removeEmptyElements"
  | lint => "lint"
  | keepClosingSlash => "keepClosingSlash"
  | caseSensitive => "caseSensitive"
  | minifyUrls => "minifyURLs"

/-- Three switches are on unless a document says otherwise. -/
def initially : Switch → Bool
  | removeComments | collapseWhitespace | removeAttributeQuotes => true
  | _ => false

end Switch

structure MinifyOptions where
  supplied : Switch → Option Bool

namespace MinifyOptions

def default : MinifyOptions := ⟨fun _ => none⟩

def isOn (o : MinifyOptions) (s : Switch) : Bool := (o.supplied s).getD s.initially

def enabled (o : MinifyOptions) : List Switch := Switch.all.filter o.isOn

def suppliedSwitches (o : MinifyOptions) : List Switch :=
  Switch.all.filter fun s => (o.supplied s).isSome

def dump (o : MinifyOptions) : Value :=
  .map (Switch.all.filterMap fun s => (o.supplied s).map fun b => (.text s.name, .bool b))

end MinifyOptions

/-- An entry under the first of some names that is there, with that name. -/
def entry? (names : List String) (entries : List (Value × Value)) : Option (String × Value) :=
  names.findSome? fun name => (Value.lookup name entries).map fun v => (name, v)

def falseWords : List String := ["0", "off", "f", "false", "n", "no"]

def trueWords : List String := ["1", "on", "t", "true", "y", "yes"]

def readTruthWord (s : String) : Checked Bool :=
  if falseWords.contains s.toLower then .ok false
  else if trueWords.contains s.toLower then .ok true
  else .fail .unreadableBool

/-- Reads a truth value: itself, zero or one, or a word for it, also as bytes. Other whole numbers
and words are told apart from values of another kind; a whole number beyond 64 bits is of another
kind. -/
def readBool : Value → Checked Bool
  | .bool b => .ok b
  | .text s => readTruthWord s
  | .bytes b =>
    match Text.decodeUtf8? b with
    | some s => readTruthWord (String.ofList s)
    | none => .fail .unreadableBool
  | .integer n =>
    if n = 0 then .ok false
    else if n = 1 then .ok true
    else if -2 ^ (63 : Nat) ≤ n ∧ n < 2 ^ (63 : Nat) then .fail .unreadableBool
    else .fail .noBool
  | .number x =>
    match x.toInt? with
    | some 0 => .ok false
    | some 1 => .ok true
    | some _ => .fail .unreadableBool
    | none => .fail .noBool
  | _ => .fail .noBool

def readSwitch (entries : List (Value × Value)) (s : Switch) : Checked (Switch × Option Bool) :=
  match entry? [s.camelName, s.name] entries with
  | none => .ok (s, none)
  | some (key, v) => ((readBool v).under (.key key)).map fun b => (s, some b)

/-- Reads settings of the switches. Entries of other names do not matter. -/
def MinifyOptions.read : Value → Checked MinifyOptions
  | .map entries =>
    (Checked.all (Switch.all.map (readSwitch entries))).map fun settings =>
      ⟨fun s => ((settings.find? fun e => e.1 = s).bind Prod.snd)⟩
  | _ => .fail (.noRecord .minify)

end Stencil.Options
