import Stencil.Number.Read
import Stencil.Yaml.Time

/-!
What a value of a document is: its kind, by the tag that marks it or, for plain scalars without one,
by its form. The last part gives the meaning of scalars of each kind.
-/
namespace Stencil.Yaml

open Number Options

inductive Kind where
  | null
  | truth
  | integer
  | number
  | bytes
  | time
  | text
  | list
  | map
  | set
  | orderedMap
  | pairs
  | merge
  | standIn
  | foreign
  deriving DecidableEq, Repr

def tagStem : List Char := "tag:yaml.org,2002:".toList

def Kind.names : List (String × Kind) :=
  [("null", .null), ("bool", .truth), ("int", .integer), ("float", .number), ("binary", .bytes),
    ("timestamp", .time), ("str", .text), ("seq", .list), ("map", .map), ("set", .set),
    ("omap", .orderedMap), ("pairs", .pairs), ("merge", .merge), ("value", .standIn)]

def Kind.ofTag (tag : List Char) : Kind :=
  ((names.find? fun n => tag == tagStem ++ n.1.toList).map Prod.snd).getD .foreign

def truthWords : List (String × Bool) :=
  [("yes", true), ("no", false), ("true", true), ("false", false), ("on", true), ("off", false)]

def capitalized (word : String) : String :=
  match word.toList with
  | [] => ""
  | c :: rest => String.ofList (c.toUpper :: rest)

/-- A word in lower case, with a capital at its beginning or in capitals. -/
def isWritten (word s : String) : Bool := s == word || s == capitalized word || s == word.toUpper

def isLooseDigit (c : Char) : Bool := c.isDigit || c == '_'

def someOf (p : Char → Bool) (s : List Char) : Bool := !s.isEmpty && s.all p

def isLooseNumeral (s : List Char) : Bool := (s.take 1).any Char.isDigit && s.all isLooseDigit

/-- A part of a number to base sixty: one digit, or two of which the first is below six. -/
def isSixtieth (s : List Char) : Bool :=
  match s with
  | [d] => d.isDigit
  | [t, d] => '0' ≤ t && t ≤ '5' && d.isDigit
  | _ => false

/-- A text cut at every place of a separator. -/
def splitOn (separator : Char) : List Char → List (List Char)
  | [] => [[]]
  | c :: rest =>
    if c = separator then [] :: splitOn separator rest
    else
      match splitOn separator rest with
      | [] => [[c]]
      | first :: others => (c :: first) :: others

def isSexagesimal (s : List Char) : Bool :=
  match splitOn ':' s with
  | first :: next :: others => isLooseNumeral first && (next :: others).all isSixtieth
  | _ => false

/-- The form of a whole number: binary, octal, decimal, hexadecimal or to base sixty. -/
def isInteger (s : List Char) : Bool :=
  match (splitSign s).2 with
  | ['0'] => true
  | '0' :: 'b' :: digits => someOf (fun c => c == '0' || c == '1' || c == '_') digits
  | '0' :: 'x' :: digits =>
    someOf (fun c => (Text.hexValue? c).isSome || c == '_') digits
  | '0' :: digits => someOf (fun c => ('0' ≤ c && c ≤ '7') || c == '_') digits
  | digits => isLooseNumeral digits || isSexagesimal digits

/-- The form of an exponent: nothing, or a letter, a sign and digits. -/
def isExponent (s : List Char) : Bool :=
  match s with
  | [] => true
  | e :: sign :: digits =>
    (e == 'e' || e == 'E') && (sign == '-' || sign == '+') && someOf Char.isDigit digits
  | _ => false

def isNumber (s : List Char) : Bool :=
  let unsigned := (splitSign s).2
  match unsigned with
  | '.' :: rest =>
    [".inf", ".Inf", ".INF"].contains (String.ofList unsigned) ||
      [".nan", ".NaN", ".NAN"].contains (String.ofList s) ||
      (s.head? == some '.' && isLooseNumeral (rest.takeWhile isLooseDigit) &&
        isExponent (rest.dropWhile isLooseDigit))
  | _ =>
    let whole := unsigned.takeWhile (· != '.')
    match unsigned.drop whole.length with
    | [] => false
    | _ :: rest =>
      (isLooseNumeral whole && isExponent (rest.dropWhile isLooseDigit)) ||
        (isSexagesimal whole && rest.all isLooseDigit)

/-- The form of a day or a time; a day on its own has two digits for its month and its day. -/
def isTime (s : List Char) : Bool :=
  match readTimeText s with
  | none => false
  | some t => t.full || t.clock.isSome

def Kind.ofPlain (s : List Char) : Kind :=
  let word := String.ofList s
  if truthWords.any fun w => isWritten w.1 word then .truth
  else if isNumber s then .number
  else if isInteger s then .integer
  else if word = "<<" then .merge
  else if word = "~" ∨ word = "" ∨ isWritten "null" word then .null
  else if isTime s then .time
  else if word = "=" then .standIn
  else .text

def truthOf (s : List Char) : Except Failure Bool :=
  match truthWords.find? fun w => w.1.toList == s.map Char.toLower with
  | some (_, b) => .ok b
  | none => .error .noTruthValue

def integerIn (base : Nat) (digits : List Char) : Except Failure Int :=
  match readInteger base digits with
  | some n => .ok n
  | none => .error .unreadable

/-- The meaning of a whole number without its sign. -/
def unsignedOf (digits : List Char) : Except Failure Int :=
  match digits with
  | [] => .error .noDigits
  | '0' :: 'b' :: rest => integerIn 2 rest
  | '0' :: 'x' :: rest => integerIn 16 rest
  | ['0'] => .ok 0
  | '0' :: _ => integerIn 8 digits
  | _ =>
    (splitOn ':' digits).foldlM (fun n part => (integerIn 10 part).map (n * 60 + ·)) 0

def integerOf (s : List Char) : Except Failure Int :=
  let (negative, digits) := splitSign (s.filter (· != '_'))
  (unsignedOf digits).map fun n => if negative then -n else n

/-- A sum and numbers that are added to it, each with sixty times the weight of the one before. -/
def addSixtieths (sum : Double) (weight : Nat) : List Double → Except Failure Double
  | [] => .ok sum
  | x :: others =>
    match Double.ofNat weight with
    | .infinite _ => .error .tooLarge
    | w => addSixtieths (sum.add (x.mul w)) (weight * 60) others

/-- A number that is written without signs for its base. -/
def plainNumber (s : List Char) : Except Failure Double :=
  match readDouble s with
  | some x => .ok x
  | none => .error .unreadable

def magnitudeOf (s : List Char) : Except Failure Double :=
  if s = ".inf".toList then .ok (.infinite false)
  else if s = ".nan".toList then .ok .nan
  else
    match splitOn ':' s with
    | [_] => plainNumber s
    | parts => do addSixtieths .zero 1 (← parts.mapM plainNumber).reverse

def numberOf (s : List Char) : Except Failure Double :=
  let text := (s.filter (· != '_')).map Char.toLower
  if text.isEmpty then .error .noDigits
  else
    let (negative, rest) := splitSign text
    (magnitudeOf rest).map fun x => if negative then x.negate else x

def timeOf (s : List Char) : Except Failure Value :=
  match readTimeText s with
  | none => .error .noTime
  | some t =>
    match t.value? with
    | none => .error .unreadable
    | some v => .ok v

end Stencil.Yaml
