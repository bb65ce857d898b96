-- The byte order of texts. Every list that is shown sorted (cached addresses, the keys of an
-- object, the directives of a filter) is sorted by UTF-8 bytes, and this order is total.
namespace KeyRoute.Text

/-- The UTF-8 bytes of a text, in order. -/
def bytes (s : String) : List UInt8 := s.toByteArray.data.toList

/-- Whether `a` stands strictly before `b` in byte order. -/
def before (a b : String) : Bool := decide (bytes a < bytes b)

/-- The byte order as a comparison. -/
def order (a b : String) : Ordering := compare (bytes a) (bytes b)

/-- Whether the bytes of `s` begin with those of `p`. -/
def beginsWith (s p : String) : Bool := (bytes p).isPrefixOf (bytes s)

theorem bytes_inj {a b : String} : bytes a = bytes b ↔ a = b := by
  constructor
  · intro h
    apply String.toByteArray_inj.mp
    exact ByteArray.ext (Array.toList_inj.mp h)
  · intro h
    rw [h]

theorem before_irrefl (a : String) : before a a = false := by
  simp [before, List.lt_irrefl]

theorem before_trans {a b c : String} (hab : before a b = true) (hbc : before b c = true) :
    before a c = true := by
  simp only [before, decide_eq_true_eq] at *
  exact List.lt_trans hab hbc

/-- Of two different texts, one stands before the other. -/
theorem before_total {a b : String} (h : a ≠ b) : before a b = true ∨ before b a = true := by
  simp only [before, decide_eq_true_eq]
  rcases Std.lt_trichotomy (bytes a) (bytes b) with hlt | heq | hgt
  · exact Or.inl hlt
  · exact absurd (bytes_inj.mp heq) h
  · exact Or.inr hgt

end KeyRoute.Text
