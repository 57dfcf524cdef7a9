import Stencil.Text.Hex
import Stencil.Text.Utf8
import Stencil.Yaml.Spot
import Stencil.Yaml.Token

/-!
What may stand before a value and before a document: anchors, aliases, tags and directives.
-/
namespace Stencil.Yaml

open Text

/-- A letter or digit of ASCII, a hyphen or a low line. -/
def isNameChar (c : Char) : Bool := c.isAlphanum || c == '-' || c == '_'

def endsName (c : Char) : Bool := isGap c || "?:,]\x7d%@\x60".toList.contains c

def endsProperty (c : Char) : Bool := isGap c && c != '\t'

def readName (r : Rest) : Except Failure (List Char × Rest) :=
  match runOf isNameChar r with
  | [] => .error .malformed
  | name => .ok (name, skipWhile isNameChar r)

/-- The name of an anchor or an alias, its sign being read. -/
def readAnchor (r : Rest) : Except Failure (List Char × Rest) := do
  let (name, r) ← readName r
  if endsName (peek r) then return (name, r) else .error .malformed

/-- The handle of a tag: a lone `!`, or a name between two of them. -/
def readHandle : Rest → Except Failure (List Char × Rest)
  | [] => .error .malformed
  | s :: rest =>
    if s.char ≠ '!' then .error .malformed
    else if peek rest = ' ' then .ok (['!'], rest)
    else
      let name := runOf isNameChar rest
      let after := skipWhile isNameChar rest
      if peek after = '!' then .ok ('!' :: name ++ ['!'], after.drop 1) else .error .malformed

def isTagChar (c : Char) : Bool := isNameChar c || ";/?:@&=+$,.!~*'()[]".toList.contains c

/-- The characters of a tag. Bytes may be written by two digits after `%`; those in a row are read
together, as the bytes of characters. -/
def tagChars (pending : Bytes) : Rest → Except Failure (List Char × Rest)
  | [] => .error .malformed
  | s :: rest =>
    if s.char = '%' then
      match rest with
      | a :: b :: rest =>
        match hexNumber? 2 [a.char, b.char] with
        | some n => tagChars (pending ++ [UInt8.ofNat n]) rest
        | none => .error .malformed
      | _ => .error .malformed
    else
      match decodeUtf8? pending with
      | none => .error .malformed
      | some done =>
        if isTagChar s.char then
          (tagChars [] rest).map fun (more, after) => (done ++ s.char :: more, after)
        else .ok (done, s :: rest)

def readTagChars (r : Rest) : Except Failure (List Char × Rest) := do
  let (text, r) ← tagChars [] r
  if text.isEmpty then .error .malformed else return (text, r)

/-- The handle and the suffix of a tag, its first `!` not being read. -/
def tagParts (r : Rest) : Except Failure ((Option (List Char) × List Char) × Rest) :=
  let next := r.drop 1
  if peek next = '<' then do
    let (suffix, r) ← readTagChars (next.drop 1)
    if peek r = '>' then return ((none, suffix), r.drop 1) else .error .malformed
  else if isGap (peek next) then .ok ((none, ['!']), next)
  else do
    let (handle, r) ←
      if (runOf (!endsProperty ·) next).contains '!' then readHandle r else .ok (['!'], next)
    let (suffix, r) ← readTagChars r
    return ((some handle, suffix), r)

def readTag (r : Rest) : Except Failure (Token × Rest) := do
  let ((handle, suffix), r) ← tagParts r
  if endsProperty (peek r) then return (.tag handle suffix, r) else .error .malformed

def readDigits (r : Rest) : Except Failure (Nat × Rest) :=
  match runOf Char.isDigit r with
  | [] => .error .malformed
  | digits =>
    .ok (digits.foldl (fun n d => n * 10 + (d.toNat - '0'.toNat)) 0, skipWhile Char.isDigit r)

def readVersion (r : Rest) : Except Failure (Directive × Rest) := do
  let (major, r) ← readDigits (skipSpaces r)
  if peek r ≠ '.' then .error .malformed
  else
    let (_, r) ← readDigits (r.drop 1)
    if endsProperty (peek r) then return (.version major, r) else .error .malformed

def readShortForm (r : Rest) : Except Failure (Directive × Rest) := do
  let (name, r) ← readHandle (skipSpaces r)
  if peek r ≠ ' ' then .error .malformed
  else
    let (stem, r) ← readTagChars (skipSpaces r)
    if endsProperty (peek r) then return (.handle name stem, r) else .error .malformed

/-- Reads a directive and the rest of its line, its sign being read. -/
def readDirective (r : Rest) : Except Failure (Directive × Rest) := do
  let (name, r) ← readName r
  if !endsProperty (peek r) then .error .malformed
  else
    let (directive, r) ←
      if name = "YAML".toList then readVersion r
      else if name = "TAG".toList then readShortForm r
      else .ok (.other, skipWhile (!endsLine ·) r)
    return (directive, ← nextLine r)

end Stencil.Yaml
