-- The texts of floating point numbers: the shortest digits, placed as a style says.
import KeyRoute.Decimal.Shortest

namespace KeyRoute.Decimal

/-- How the digits of a number are chosen and placed. -/
structure Style where
  /-- Which of two shortest decimals is written when they are equally near. -/
  tie : Tie
  /-- Whether a whole number ends with a point and a zero. -/
  pointed : Bool
  /-- The powers of ten of the leading digit, least and greatest, up to which the number is
  written in full; with `none` it always is. -/
  full : Option (Int × Int)

/-- Digits written in full: zeros fill the places up to the point. -/
def placed (pointed : Bool) (digits : List Char) (power : Int) : List Char :=
  if 0 ≤ power then
    digits ++ List.replicate power.toNat '0' ++ (if pointed then ['.', '0'] else [])
  else
    let places := (-power).toNat
    if places < digits.length then
      digits.take (digits.length - places) ++ '.' :: digits.drop (digits.length - places)
    else
      ['0', '.'] ++ List.replicate (places - digits.length) '0' ++ digits

/-- Digits with one of them before the point, and the power of the leading one. -/
def scaled (digits : List Char) (leading : Int) : List Char :=
  let head := digits.take 1
  let tail := digits.drop 1
  head ++ (if tail.isEmpty then [] else '.' :: tail) ++
    ['e', if leading < 0 then '-' else '+'] ++ Nat.toDigits 10 leading.natAbs

/-- The text of a size. -/
def sizeText (style : Style) (digits : List Char) (power : Int) : List Char :=
  let leading := power + Int.ofNat digits.length - 1
  match style.full with
  | none => placed style.pointed digits power
  | some (least, greatest) =>
    if least ≤ leading && leading ≤ greatest then placed style.pointed digits power
    else scaled digits leading

/-- The text of a number. -/
def Binary64.text (style : Style) : Binary64 → String
  | .nan => "NaN"
  | .infinite negative => if negative then "-inf" else "inf"
  | .finite negative m e =>
    let (digits, power) := if m = 0 then (0, 0) else shortest style.tie m e
    let sign := if negative then ['-'] else []
    String.ofList (sign ++ sizeText style (Nat.toDigits 10 digits) power)

end KeyRoute.Decimal
