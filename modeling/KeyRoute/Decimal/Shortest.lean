-- The shortest decimal that reads back as a given number: of the powers of ten, the greatest
-- with a multiple among the reals that round to the number, and of those multiples the one
-- nearest to it. Where two are nearest, a tie rule decides.
import KeyRoute.Decimal.Binary64

namespace KeyRoute.Decimal

/-- Which of two neighbours is taken halfway between them. -/
inductive Tie where
  | even
  | greater
deriving DecidableEq

/-- Whether a tie falls to the lower neighbour. -/
def Tie.takesBelow (tie : Tie) (below : Nat) : Bool := tie = .even && below % 2 = 0

/-- The reals that round to `m * 2 ^ e`, as bounds in units of `2 ^ (e - 2)`. Below a power of
two the neighbour is only half as far away. -/
def roundingBounds (m : Nat) (e : Int) : Nat × Nat :=
  (if m = twoTo 52 ∧ Binary64.leastExponent < e then 4 * m - 1 else 4 * m - 2, 4 * m + 2)

/-- The multiple of `10 ^ k` that is nearest to `m * 2 ^ e`, counted in units of `10 ^ k`, if
it rounds to that number. The ends of the bounds do so when the mantissa is even. -/
def gridPoint (tie : Tie) (m : Nat) (e k : Int) : Option Nat :=
  let num := twoTo (e - 2).toNat * tenTo (-k).toNat
  let den := twoTo (2 - e).toNat * tenTo k.toNat
  let (low, high) := roundingBounds m e
  let inside := fun x : Nat =>
    if m % 2 = 0 then low * num ≤ x * den && x * den ≤ high * num
    else low * num < x * den && x * den < high * num
  let below := 4 * m * num / den
  let above := below + 1
  match inside below, inside above with
  | true, true =>
    let toBelow := 4 * m * num - below * den
    let toAbove := above * den - 4 * m * num
    if toBelow < toAbove || (toBelow == toAbove && tie.takesBelow below) then some below
    else some above
  | true, false => some below
  | false, true => some above
  | false, false => none

/-- The shortest decimal `digits * 10 ^ power` of the positive number `m * 2 ^ e`. Every such
number has a multiple of `10 ^ -324` among the reals that round to it, so the search finds one. -/
def shortest (tie : Tie) (m : Nat) (e : Int) : Nat × Int :=
  let powers := (List.range 634).map fun (i : Nat) => (309 : Int) - Int.ofNat i
  (powers.findSome? fun k => (gridPoint tie m e k).map fun d => (d, k)).getD (0, 0)

end KeyRoute.Decimal
