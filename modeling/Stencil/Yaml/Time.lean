import Stencil.Options.Value
import Stencil.Yaml.Failure

/-!
Days and times in a document: year, month and day, and after them a time of day with a fraction and
a zone. The form is told apart from the calendar: a day may have the form of one and not exist.
-/
namespace Stencil.Yaml

open Options

structure ZoneText where
  negative : Bool
  hours : Nat
  minutes : Nat

structure ClockText where
  hour : Nat
  minute : Nat
  second : Nat
  fraction : List Char
  zone : Option ZoneText

structure TimeText where
  year : Nat
  month : Nat
  day : Nat
  clock : Option ClockText
  full : Bool

def decimalOf (digits : List Char) : Nat :=
  digits.foldl (fun n d => n * 10 + (d.toNat - '0'.toNat)) 0

/-- Digits at the beginning of a text, at least `least` and not more than `most` of them. -/
def someDigits (least most : Nat) (s : List Char) : Option (List Char × List Char) :=
  let digits := (s.take most).takeWhile Char.isDigit
  if least ≤ digits.length then some (digits, s.drop digits.length) else none

def oneOrTwo (s : List Char) : Option (Nat × List Char) :=
  (someDigits 1 2 s).map fun (digits, rest) => (decimalOf digits, rest)

def twoAfter (sign : Char) : List Char → Option (Nat × List Char)
  | [] => none
  | c :: rest =>
    if c = sign then (someDigits 2 2 rest).map fun (digits, rest) => (decimalOf digits, rest)
    else none

/-- A zone to the end of the text: none, universal time, or an offset. -/
def readZone (s : List Char) : Option (Option ZoneText) :=
  match s.dropWhile fun c => c == ' ' || c == '\t' with
  | [] => if s.isEmpty then some none else none
  | ['Z'] => some (some ⟨false, 0, 0⟩)
  | sign :: rest =>
    if sign = '-' ∨ sign = '+' then do
      let (hours, rest) ← oneOrTwo rest
      match rest with
      | [] => some (some ⟨sign == '-', hours, 0⟩)
      | rest =>
        match twoAfter ':' rest with
        | some (minutes, []) => some (some ⟨sign == '-', hours, minutes⟩)
        | _ => none
    else none

def readPart : List Char → List Char × List Char
  | '.' :: rest => (rest.takeWhile Char.isDigit, rest.dropWhile Char.isDigit)
  | s => ([], s)

def afterMark : List Char → Option (List Char)
  | [] => none
  | c :: rest =>
    if c = 'T' ∨ c = 't' then some rest
    else if c = ' ' ∨ c = '\t' then some (rest.dropWhile fun c => c == ' ' || c == '\t')
    else none

def readClock (s : List Char) : Option ClockText := do
  let (hour, s) ← oneOrTwo (← afterMark s)
  let (minute, s) ← twoAfter ':' s
  let (second, s) ← twoAfter ':' s
  let (fraction, s) := readPart s
  some ⟨hour, minute, second, fraction, ← readZone s⟩

/-- A number of one or two digits after a hyphen, and whether it has two. -/
def afterHyphen : List Char → Option ((Nat × Bool) × List Char)
  | '-' :: rest =>
    (someDigits 1 2 rest).map fun (digits, rest) => ((decimalOf digits, digits.length == 2), rest)
  | _ => none

def readTimeText (s : List Char) : Option TimeText := do
  let (year, s) ← someDigits 4 4 s
  let ((month, fullMonth), s) ← afterHyphen s
  let ((day, fullDay), s) ← afterHyphen s
  let clock ← if s.isEmpty then some none else (readClock s).map some
  some ⟨decimalOf year, month, day, clock, fullMonth && fullDay⟩

def isLeap (year : Nat) : Bool := year % 4 == 0 && (year % 100 != 0 || year % 400 == 0)

def daysIn (year month : Nat) : Nat :=
  if month = 2 then if isLeap year then 29 else 28
  else if [4, 6, 9, 11].contains month then 30
  else 31

def dayExists (year month day : Nat) : Bool :=
  1 ≤ year && 1 ≤ month && month ≤ 12 && 1 ≤ day && day ≤ daysIn year month

/-- Six digits of a fraction, filled up with zeros. -/
def microseconds (fraction : List Char) : Nat :=
  decimalOf (fraction.take 6 ++ List.replicate (6 - fraction.length) '0')

/-- The offset of a zone in minutes; it is less than a day. -/
def offsetOf (z : ZoneText) : Option Int :=
  let minutes := z.hours * 60 + z.minutes
  if minutes < 1440 then some (if z.negative then -minutes else minutes) else none

def TimeText.value? (t : TimeText) : Option Value := do
  if !dayExists t.year t.month t.day then none
  else
    let date : Date := ⟨t.year, t.month, t.day⟩
    match t.clock with
    | none => some (.date date)
    | some c =>
      let offset ← match c.zone with
        | none => some none
        | some z => (offsetOf z).map some
      if c.hour < 24 && c.minute < 60 && c.second < 60 then
        some (.moment ⟨date, c.hour, c.minute, c.second, microseconds c.fraction, offset⟩)
      else none

end Stencil.Yaml
