-- Blank characters: the Unicode property White_Space. A service name holds none, and an
-- address of only blanks names no node.
namespace KeyRoute.Text

/-- Whether `c` has the property White_Space. -/
def isBlank (c : Char) : Bool :=
  let n := c.toNat
  (0x9 ≤ n && n ≤ 0xd) || n == 0x20 || n == 0x85 || n == 0xa0 || n == 0x1680 ||
  (0x2000 ≤ n && n ≤ 0x200a) || n == 0x2028 || n == 0x2029 || n == 0x202f || n == 0x205f ||
  n == 0x3000

/-- Whether `s` holds nothing but blanks; the empty text does so. -/
def allBlank (s : String) : Bool := s.toList.all isBlank

/-- Whether `s` holds a blank. -/
def anyBlank (s : String) : Bool := s.toList.any isBlank

/-- The characters without the blanks at both ends. -/
def trim (cs : List Char) : List Char :=
  ((cs.dropWhile isBlank).reverse.dropWhile isBlank).reverse

/-- A text of only blanks either is empty or holds one. -/
theorem allBlank_cases {s : String} (h : allBlank s = true) : s = "" ∨ anyBlank s = true := by
  unfold allBlank at h
  unfold anyBlank
  cases hs : s.toList with
  | nil => exact Or.inl (String.toList_inj.mp (by simpa using hs))
  | cons c cs =>
    rw [hs] at h
    simp only [List.all_cons, Bool.and_eq_true] at h
    simp [h.1]

end KeyRoute.Text
