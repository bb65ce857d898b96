-- The scalars of TOML that stand without quotes: truth values, integers, floating point
-- numbers, dates and times.
import KeyRoute.Decimal.Digits
import KeyRoute.Document.Toml.Basic

namespace KeyRoute.Toml

/-! ## Numbers -/

/-- A run of digits without its underscores, each of which stands between two digits. -/
def digitRun (isDigit : Char → Bool) : List Char → Option (List Char)
  | [] => none
  | [c] => if isDigit c then some [c] else none
  | c :: '_' :: cs => if isDigit c then (digitRun isDigit cs).map (c :: ·) else none
  | c :: cs => if isDigit c then (digitRun isDigit cs).map (c :: ·) else none

/-- A run of decimal digits which starts with zero only if it is zero. -/
def wholeRun (cs : List Char) : Option (List Char) :=
  (digitRun Char.isDigit cs).filter fun digits => digits.head? ≠ some '0' || digits.length = 1

/-- The value of a digit in some base up to sixteen. -/
def digitValue (c : Char) : Nat :=
  if c.isDigit then c.toNat - '0'.toNat else c.toLower.toNat - 'a'.toNat + 10

def isHexDigit (c : Char) : Bool :=
  c.isDigit || ('a' ≤ c && c ≤ 'f') || ('A' ≤ c && c ≤ 'F')

/-- An integer in another base; it has no sign. -/
def basedInteger (base : Nat) (cs : List Char) : Option Int :=
  let isDigit := fun c => isHexDigit c && digitValue c < base
  (digitRun isDigit cs).map fun digits =>
    Int.ofNat (digits.foldl (fun value c => base * value + digitValue c) 0)

def integer? : List Char → Option Int
  | '0' :: 'x' :: cs => basedInteger 16 cs
  | '0' :: 'o' :: cs => basedInteger 8 cs
  | '0' :: 'b' :: cs => basedInteger 2 cs
  | cs =>
    let (negative, rest) := Decimal.splitSign cs
    (wholeRun rest).map fun digits =>
      let n := Int.ofNat (Decimal.digitsValue digits)
      if negative then -n else n

/-- An exponent after its letter: digits after at most a sign, zeros in front allowed. -/
def exponent? (cs : List Char) : Option Int :=
  let (negative, rest) := Decimal.splitSign cs
  (digitRun Char.isDigit rest).map fun digits =>
    let n := Int.ofNat (Decimal.digitsValue digits)
    if negative then -n else n

/-- A floating point number has a fraction, an exponent or both, or is a name. -/
def float? (cs : List Char) : Option Toml :=
  let (negative, rest) := Decimal.splitSign cs
  if rest = "inf".toList then some (.float (.infinite negative))
  else if rest = "nan".toList then some (.float .nan)
  else
    let mantissa := rest.takeWhile fun c => c != 'e' && c != 'E'
    let power := rest.drop mantissa.length
    let whole := mantissa.takeWhile (· != '.')
    let fraction := mantissa.drop whole.length
    if power.isEmpty && fraction.isEmpty then none
    else do
      let whole ← wholeRun whole
      let fraction ← if fraction.isEmpty then some [] else digitRun Char.isDigit (fraction.drop 1)
      let power ← if power.isEmpty then some 0 else exponent? (power.drop 1)
      match Decimal.Binary64.ofDigits negative whole fraction power with
      | .infinite _ => return .unreadable .float
      | x => return .float x

/-- The parts of a text between its underscores. -/
def underscoreParts : List Char → List (List Char)
  | [] => [[]]
  | c :: cs =>
    if c == '_' then [] :: underscoreParts cs
    else match underscoreParts cs with
      | [] => [[c]]
      | part :: parts => (c :: part) :: parts

/-- Whether every part but the last starts and ends with a digit of some base, and the last one
starts with such a digit. -/
def looselyDigits : List (List Char) → Bool
  | [] => true
  | [part] => part.head?.any isHexDigit
  | part :: parts =>
    part.head?.any isHexDigit && part.getLast?.any isHexDigit && looselyDigits parts

/-- Whether a text has the form of an integer, if nobody looks at its digits: a base without
digits, or after at most a sign some digits and an underscore, digits of whatever base around
this and all further ones, and anything at the end but a space, which only dates have. -/
def isLooseInteger (cs : List Char) : Bool :=
  let (_, rest) := Decimal.splitSign cs
  let digits := rest.takeWhile Char.isDigit
  let tail := rest.drop digits.length
  [['0', 'x'], ['0', 'o'], ['0', 'b']].contains cs ||
    (!digits.isEmpty && digits.head? ≠ some '0' && tail.head? = some '_' &&
      tail.all (fun c => c != '.' && c != 'e' && c != 'E' && c != ' ') &&
      looselyDigits (underscoreParts (tail.drop 1)))

/-! ## Dates and times -/

/-- A number of exactly `n` digits, and what follows it. -/
def fixedDigits (n : Nat) (cs : List Char) : Option (Nat × List Char) :=
  (Decimal.digits? (cs.take n)).bind fun value =>
    if (cs.take n).length = n then some (value, cs.drop n) else none

/-- A given character, and what follows it. -/
def sign (c : Char) : List Char → Option (List Char)
  | [] => none
  | d :: cs => if d = c then some cs else none

def daysOf (year month : Nat) : Nat :=
  if month = 2 then
    if year % 4 = 0 && (year % 100 ≠ 0 || year % 400 = 0) then 29 else 28
  else if month = 4 || month = 6 || month = 9 || month = 11 then 30
  else 31

/-- A date that the calendar has, and what follows it. -/
def date? (cs : List Char) : Option (List Char) := do
  let (year, cs) ← fixedDigits 4 cs
  let cs ← sign '-' cs
  let (month, cs) ← fixedDigits 2 cs
  let cs ← sign '-' cs
  let (day, cs) ← fixedDigits 2 cs
  if 1 ≤ month && month ≤ 12 && 1 ≤ day && day ≤ daysOf year month then some cs else none

/-- Seconds and maybe parts of one, after the minutes; they may be left out. -/
def seconds? (cs : List Char) : Option (List Char) :=
  if cs.head? ≠ some ':' then some cs
  else do
    let (second, cs) ← fixedDigits 2 (cs.drop 1)
    if 60 < second then none
    else if cs.head? ≠ some '.' then some cs
    else
      let parts := (cs.drop 1).takeWhile Char.isDigit
      if parts.isEmpty then none else some (cs.drop (parts.length + 1))

/-- A time of the day, and what follows it. A minute may have a leap second. -/
def time? (cs : List Char) : Option (List Char) := do
  let (hour, cs) ← fixedDigits 2 cs
  let cs ← sign ':' cs
  let (minute, cs) ← fixedDigits 2 cs
  if hour ≤ 23 && minute ≤ 59 then seconds? cs else none

/-- A distance from universal time, with nothing behind it; it may be left out. -/
def offsetEnds (cs : List Char) : Bool :=
  match cs with
  | [] => true
  | ['Z'] => true
  | ['z'] => true
  | c :: cs =>
    (c == '+' || c == '-') && ((do
      let (hour, cs) ← fixedDigits 2 cs
      let cs ← sign ':' cs
      let (minute, cs) ← fixedDigits 2 cs
      return hour ≤ 23 && minute ≤ 59 && cs.isEmpty).getD false)

/-- Whether a text is a date, a time, or a date and a time with maybe an offset. -/
def isMoment (cs : List Char) : Bool :=
  match date? cs with
  | none => time? cs = some []
  | some [] => true
  | some (c :: rest) =>
    (c == 'T' || c == 't' || c == ' ') &&
      (match time? rest with
        | some rest => offsetEnds rest
        | none => false)

/-! ## Scalars -/

/-- An integer; of more than 128 bits it has no value. -/
def ofInteger (value : Int) : Toml :=
  if -Int.ofNat (Decimal.twoTo 127) ≤ value && value < Int.ofNat (Decimal.twoTo 128) then
    .integer value
  else .unreadable .integer

def scalar? (cs : List Char) : Option Toml :=
  if cs = "true".toList then some (.boolean true)
  else if cs = "false".toList then some (.boolean false)
  else match integer? cs with
  | some value => some (ofInteger value)
  | none =>
    (float? cs).or
      (if isMoment cs then some .moment
      else if isLooseInteger cs then some (.unreadable .integer)
      else none)

def isSpace (c : Char) : Bool := c == ' ' || c == '\t'

/-- The characters of the words that a scalar is made of. -/
def inWord (c : Char) : Bool :=
  !(['=', ',', '[', ']', '\x7b', '\x7d', ' ', '\t', '#', '\r', '\n'].contains c)

def isQuote (c : Char) : Bool := c == '"' || c == '\''

/-- How many characters a scalar has: all words in a row, with the spaces between them. A string
is no word, so no further one starts with a quote. The spaces just before are given as `spaces`;
they count only if a word follows. -/
def scalarLength (spaces : Nat) : List Char → Nat
  | [] => 0
  | c :: cs =>
    if isSpace c then scalarLength (spaces + 1) cs
    else if inWord c && (spaces = 0 || !isQuote c) then spaces + 1 + scalarLength 0 cs
    else 0

/-- A scalar, and what follows it. -/
def scalar (cs : List Char) : Option (Toml × List Char) :=
  let length := scalarLength 0 cs
  (scalar? (cs.take length)).map fun value => (value, cs.drop length)

end KeyRoute.Toml
