-- Binary floating point numbers of 64 bits as exact values: a sign, a whole mantissa and a
-- power of two. A decimal becomes the nearest of them, a half going to the even mantissa.
namespace KeyRoute.Decimal

/-- Two to a power. -/
def twoTo (n : Nat) : Nat := Nat.pow 2 n

/-- Ten to a power. -/
def tenTo (n : Nat) : Nat := Nat.pow 10 n

/-- A 64-bit binary floating point number. The size of a finite one is
`mantissa * 2 ^ exponent`; its mantissa has 53 bits unless the exponent is the least one. -/
inductive Binary64 where
  | finite (negative : Bool) (mantissa : Nat) (exponent : Int)
  | infinite (negative : Bool)
  | nan
deriving DecidableEq

namespace Binary64

/-- The least exponent. -/
def leastExponent : Int := -1074

/-- The greatest exponent. -/
def greatestExponent : Int := 971

/-! ## Rounding -/

/-- The quotient rounded to the nearest whole number, a half to the even neighbour. -/
def roundDiv (num den : Nat) : Nat :=
  let q := num / den
  let r := num % den
  if 2 * r < den then q
  else if den < 2 * r then q + 1
  else if q % 2 = 0 then q else q + 1

/-- A quotient divided by `2 ^ e`, again as a quotient. -/
def overPower (num den : Nat) (e : Int) : Nat × Nat :=
  (num * twoTo (-e).toNat, den * twoTo e.toNat)

/-- The exponent for which the mantissa of `num / den` has 53 bits, or the least exponent
where the number is too small for that. -/
def exponentOf (num den : Nat) : Int :=
  let guess : Int := Int.ofNat num.log2 - Int.ofNat den.log2
  let (n, d) := overPower num den guess
  max leastExponent (if d ≤ n then guess - 52 else guess - 53)

/-- The number nearest to `num / den`, where `num` is not zero. -/
def ofQuotient (negative : Bool) (num den : Nat) : Binary64 :=
  let e := exponentOf num den
  let (n, d) := overPower num den e
  let m := roundDiv n d
  let (m, e) := if m = twoTo 53 then (twoTo 52, e + 1) else (m, e)
  if greatestExponent < e then .infinite negative else .finite negative m e

/-- Zero with a sign. -/
def zero (negative : Bool) : Binary64 := .finite negative 0 leastExponent

/-- The number nearest to `digits * 10 ^ power`. A decimal of more than 310 places before the
point is infinite and one of more than 330 zeros after it is zero, whatever its digits. -/
def ofDecimal (negative : Bool) (digits : Nat) (power : Int) : Binary64 :=
  if digits = 0 then zero negative
  else
    let places := Int.ofNat (Nat.toDigits 10 digits).length + power
    if 310 < places then .infinite negative
    else if places < -330 then zero negative
    else ofQuotient negative (digits * tenTo power.toNat) (tenTo (-power).toNat)

/-! ## Order -/

/-- The comparison of two sizes `m * 2 ^ e` and `n * 2 ^ f`. -/
def compareSize (m : Nat) (e : Int) (n : Nat) (f : Int) : Ordering :=
  compare (m * twoTo (e - f).toNat) (n * twoTo (f - e).toNat)

/-- The order of the numbers; the two zeros are equal, and NaN stands last. -/
def order : Binary64 → Binary64 → Ordering
  | .nan, .nan => .eq
  | .nan, _ => .gt
  | _, .nan => .lt
  | .infinite a, .infinite b => compare b a
  | .infinite a, _ => if a then .lt else .gt
  | _, .infinite b => if b then .gt else .lt
  | .finite a m e, .finite b n f =>
    if m = 0 && n = 0 then .eq
    else match a, b with
      | false, false => compareSize m e n f
      | true, true => compareSize n f m e
      | true, false => .lt
      | false, true => .gt

end Binary64

end KeyRoute.Decimal
