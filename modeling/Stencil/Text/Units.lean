/-!
Text as sequences of 16-bit code units, which is what a string is for the runtime that loads the
generated modules. A character above U+FFFF takes two units; other sequences of units, with
surrogates that stand alone, are strings as well.
-/
namespace Stencil.Text

abbrev Units := List UInt16

/-- One unit, or the two surrogates of a character above U+FFFF. -/
def unitsOfChar (c : Char) : Units :=
  if c.toNat < 0x10000 then [UInt16.ofNat c.toNat]
  else
    [UInt16.ofNat (0xD800 + (c.toNat - 0x10000) / 0x400),
      UInt16.ofNat (0xDC00 + (c.toNat - 0x10000) % 0x400)]

def unitsOfChars (s : List Char) : Units := s.flatMap unitsOfChar

def units (s : String) : Units := unitsOfChars s.toList

def isHighSurrogate (u : UInt16) : Bool := 0xD800 ≤ u.toNat && u.toNat < 0xDC00

def isLowSurrogate (u : UInt16) : Bool := 0xDC00 ≤ u.toNat && u.toNat < 0xE000

def charOfPair (high low : UInt16) : Char :=
  Char.ofNat (0x10000 + (high.toNat - 0xD800) * 0x400 + (low.toNat - 0xDC00))

/-- The text of a sequence of units, if every surrogate stands in a pair. -/
def charsOfUnits? : Units → Option (List Char)
  | [] => some []
  | u :: v :: rest =>
    if isHighSurrogate u && isLowSurrogate v then
      (charsOfUnits? rest).map (charOfPair u v :: ·)
    else if isHighSurrogate u || isLowSurrogate u then none
    else (charsOfUnits? (v :: rest)).map (Char.ofNat u.toNat :: ·)
  | [u] =>
    if isHighSurrogate u || isLowSurrogate u then none else some [Char.ofNat u.toNat]

/-- The text of a sequence of units, with U+FFFD for a surrogate that stands alone. -/
def charsOfUnits : Units → List Char
  | [] => []
  | u :: v :: rest =>
    if isHighSurrogate u && isLowSurrogate v then charOfPair u v :: charsOfUnits rest
    else Char.ofNat (if isHighSurrogate u || isLowSurrogate u then 0xFFFD else u.toNat) ::
      charsOfUnits (v :: rest)
  | [u] => [Char.ofNat (if isHighSurrogate u || isLowSurrogate u then 0xFFFD else u.toNat)]

/-- The text of a sequence of units, with U+FFFD for a surrogate that stands alone. -/
def textOfUnits (u : Units) : String := String.ofList (charsOfUnits u)

@[simp] theorem unitsOfChars_nil : unitsOfChars [] = [] := rfl

@[simp] theorem unitsOfChars_append (s t : List Char) :
    unitsOfChars (s ++ t) = unitsOfChars s ++ unitsOfChars t := by
  simp [unitsOfChars]

end Stencil.Text
