-- Classes of characters given by ranges of code points.
namespace KeyRoute.Text

/-- A class of characters: inclusive ranges of code points, in increasing order. -/
abbrev Ranges := List (Nat × Nat)

/-- Whether one of the ranges holds the code point of `c`. -/
def Ranges.holds (table : Ranges) (c : Char) : Bool :=
  table.any fun range => range.1 ≤ c.toNat && c.toNat ≤ range.2

end KeyRoute.Text
