import Stencil.Json.Writer
import Stencil.Text.Printable
import Stencil.Text.Utf8

/-!
Values of option documents before anything is known of their shape, and their texts. Mappings keep
the order of their keys; numbers that are equal are the same key, and truth values count as zero
and one.
-/
namespace Stencil.Options

open Number Text

attribute [local instance (high)] instPowNat

structure Date where
  year : Nat
  month : Nat
  day : Nat
  deriving DecidableEq, Repr

structure Moment where
  date : Date
  hour : Nat
  minute : Nat
  second : Nat
  microsecond : Nat
  offset : Option Int
  deriving DecidableEq, Repr

inductive Value where
  | null
  | bool (b : Bool)
  | integer (n : Int)
  | number (x : Double)
  | text (s : String)
  | bytes (b : Bytes)
  | date (d : Date)
  | moment (t : Moment)
  | list (items : List Value)
  | tuple (items : List Value)
  | set (items : List Value)
  | map (entries : List (Value × Value))
  | around (isMapping : Bool)
  deriving Inhabited

/-- A number filled up with zeros to a width. -/
def padded (width n : Nat) : String :=
  let digits := Nat.toDigits 10 n
  String.ofList (List.replicate (width - digits.length) '0' ++ digits)

def Date.text (d : Date) : String :=
  padded 4 d.year ++ "-" ++ padded 2 d.month ++ "-" ++ padded 2 d.day

def offsetText (minutes : Int) : String :=
  (if minutes < 0 then "-" else "+") ++ padded 2 (minutes.natAbs / 60) ++ ":" ++
    padded 2 (minutes.natAbs % 60)

def Moment.text (t : Moment) : String :=
  t.date.text ++ " " ++ padded 2 t.hour ++ ":" ++ padded 2 t.minute ++ ":" ++ padded 2 t.second ++
    (if t.microsecond = 0 then "" else "." ++ padded 6 t.microsecond) ++
    (t.offset.map offsetText).getD ""

/-- A call that would build a day or a moment again. -/
def constructed (name : String) (arguments : List String) : String :=
  "datetime." ++ name ++ "(" ++ ", ".intercalate arguments ++ ")"

def Date.shown (d : Date) : String := constructed "date" ([d.year, d.month, d.day].map toString)

/-- An offset inside a container; negative ones are whole days back and seconds forward. -/
def offsetShown (minutes : Int) : String :=
  if minutes = 0 then "datetime.timezone.utc"
  else
    let seconds := minutes * 60
    let parts :=
      if seconds < 0 then ["days=-1", "seconds=" ++ toString (86400 + seconds)]
      else ["seconds=" ++ toString seconds]
    constructed "timezone" [constructed "timedelta" parts]

def Moment.shown (t : Moment) : String :=
  let clock :=
    if t.microsecond ≠ 0 then [t.hour, t.minute, t.second, t.microsecond]
    else if t.second ≠ 0 then [t.hour, t.minute, t.second]
    else [t.hour, t.minute]
  constructed "datetime"
    (([t.date.year, t.date.month, t.date.day] ++ clock).map toString ++
      (t.offset.map fun o => "tzinfo=" ++ offsetShown o).toList)

def byteShown (quote : Char) (b : UInt8) : List Char :=
  let c := Char.ofNat b.toNat
  if c == quote || c == '\\' then ['\\', c]
  else if c == '\n' then ['\\', 'n']
  else if c == '\r' then ['\\', 'r']
  else if c == '\t' then ['\\', 't']
  else if 0x20 ≤ b.toNat && b.toNat < 0x7F then [c]
  else ['\\', 'x'] ++ hexPadded 2 b.toNat

def bytesShown (b : Bytes) : String :=
  let quote := shownQuote (b.map fun x => Char.ofNat x.toNat)
  String.ofList ('b' :: quote :: b.flatMap (byteShown quote) ++ [quote])

namespace Value

def boolText (b : Bool) : String := if b then "True" else "False"

def numberText (x : Double) : String := String.ofList (x.text "inf" "nan")

/-- A whole number that is not too long to be written. -/
def integerText? (n : Int) : Option String :=
  if n.natAbs < 10 ^ Json.maxDigits then some (String.ofList (Json.writeInteger n)) else none

mutual

/-- The text of a value inside a container; none if a number in it is too long. -/
def shown? : Value → Option String
  | .null => some "None"
  | .bool b => some (boolText b)
  | .integer n => integerText? n
  | .number x => some (numberText x)
  | .text s => some (Text.shown s)
  | .bytes b => some (bytesShown b)
  | .date d => some d.shown
  | .moment t => some t.shown
  | .list items => (shownItems? items).map fun parts => "[" ++ ", ".intercalate parts ++ "]"
  | .tuple items =>
    (shownItems? items).map fun parts =>
      "(" ++ ", ".intercalate parts ++ (if parts.length = 1 then ",)" else ")")
  | .set items =>
    (shownItems? items).map fun parts =>
      if parts.isEmpty then "set()" else "\x7b" ++ ", ".intercalate parts ++ "\x7d"
  | .map entries =>
    (shownEntries? entries).map fun parts => "\x7b" ++ ", ".intercalate parts ++ "\x7d"
  | .around isMapping => some (if isMapping then "\x7b...\x7d" else "[...]")

def shownItems? : List Value → Option (List String)
  | [] => some []
  | v :: rest =>
    match shown? v, shownItems? rest with
    | some s, some parts => some (s :: parts)
    | _, _ => none

def shownEntries? : List (Value × Value) → Option (List String)
  | [] => some []
  | (k, v) :: rest =>
    match shown? k, shown? v, shownEntries? rest with
    | some key, some value, some parts => some ((key ++ ": " ++ value) :: parts)
    | _, _, _ => none

end

/-- The text of a value on its own; none if a number in it is too long. -/
def text? : Value → Option String
  | .text s => some s
  | .date d => some d.text
  | .moment t => some t.text
  | v => v.shown?

def whole? : Value → Option Int
  | .bool b => some (if b then 1 else 0)
  | .integer n => some n
  | .number x => x.toInt?
  | _ => none

mutual

/-- The same key: equal numbers, or equal values of one kind. -/
def sameKey : Value → Value → Bool
  | .null, .null => true
  | .text s, .text t => s == t
  | .bytes b, .bytes c => b == c
  | .date d, .date e => d == e
  | .moment t, .moment u => t == u
  | .tuple xs, .tuple ys => sameKeys xs ys
  | v, w =>
    match v.whole?, w.whole? with
    | some m, some n => m == n
    | none, none =>
      match v, w with
      | .number x, .number y => x == y && x != .nan
      | _, _ => false
    | _, _ => false

def sameKeys : List Value → List Value → Bool
  | [], [] => true
  | v :: vs, w :: ws => sameKey v w && sameKeys vs ws
  | _, _ => false

end

/-- Adds an entry: a key that is there keeps its place and takes the new value. -/
def insertEntry (key value : Value) : List (Value × Value) → List (Value × Value)
  | [] => [(key, value)]
  | (k, v) :: rest =>
    if k.sameKey key then (k, value) :: rest else (k, v) :: insertEntry key value rest

/-- A mapping of entries of which later ones replace earlier ones of the same key. -/
def ofEntries (entries : List (Value × Value)) : Value :=
  .map (entries.foldl (fun done (k, v) => insertEntry k v done) [])

def lookup (name : String) (entries : List (Value × Value)) : Option Value :=
  (entries.find? fun e => e.1.sameKey (.text name)).map Prod.snd

/-- Nothing is in the value, or it is null, false or zero. -/
def isEmpty : Value → Bool
  | .null => true
  | .bool b => !b
  | .integer n => n == 0
  | .number x => x.toInt? == some 0
  | .text s => s.isEmpty
  | .bytes b => b.isEmpty
  | .list items | .tuple items | .set items => items.isEmpty
  | .map entries => entries.isEmpty
  | _ => false

end Value

end Stencil.Options
