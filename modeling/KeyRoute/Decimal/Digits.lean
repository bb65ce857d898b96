-- Runs of decimal digits: their value, and the number that whole, fractional and exponent
-- digits write together.
import KeyRoute.Decimal.Binary64

namespace KeyRoute.Decimal

/-- The value of a run of decimal digits. -/
def digitsValue (digits : List Char) : Nat :=
  digits.foldl (fun value c => 10 * value + (c.toNat - '0'.toNat)) 0

/-- The value of a run of decimal digits, if it is one: it has a digit and nothing else. -/
def digits? (cs : List Char) : Option Nat :=
  if !cs.isEmpty && cs.all Char.isDigit then some (digitsValue cs) else none

/-- A sign that stands in front, and what follows it: `true` for minus. -/
def splitSign : List Char → Bool × List Char
  | '+' :: cs => (false, cs)
  | '-' :: cs => (true, cs)
  | cs => (false, cs)

/-- An integer without minus: digits after at most a plus. -/
def unsigned? : List Char → Option Nat
  | '+' :: cs => digits? cs
  | cs => digits? cs

/-- An integer: digits after at most a sign. -/
def integer? (cs : List Char) : Option Int :=
  let (negative, rest) := splitSign cs
  (digits? rest).map fun n => if negative then -Int.ofNat n else Int.ofNat n

/-- The number with these digits before and after the point, times a power of ten. -/
def Binary64.ofDigits (negative : Bool) (whole fraction : List Char) (power : Int) : Binary64 :=
  .ofDecimal negative (digitsValue (whole ++ fraction)) (power - fraction.length)

end KeyRoute.Decimal
