-- The escapes of a match expression. No class of characters is known but the ASCII ones, so an
-- escape for a class of letters is refused where characters are matched. No code point in braces
-- can be written, since a field text holds no closing brace behind an opening one.
import KeyRoute.Filter.Pattern.Mode

namespace KeyRoute.Pattern

/-- What an escape or a plain character stands for. -/
inductive Atom where
  /-- A character; one written by two hexadecimal digits may stand for a byte. -/
  | literal (c : Char) (byHex : Bool)
  /-- The digits, blanks or word characters, or all others. -/
  | category (negated : Bool)
  /-- A place between characters, maybe the edge of a word. -/
  | place (wordEdge : Bool)

/-! ## Code points -/

def hexDigit? (c : Char) : Option Nat :=
  if c.isDigit then some (c.toNat - '0'.toNat)
  else if 'a' ≤ c && c ≤ 'f' then some (c.toNat - 'a'.toNat + 10)
  else if 'A' ≤ c && c ≤ 'F' then some (c.toNat - 'A'.toNat + 10)
  else none

/-- The value of exactly `n` hexadecimal digits, and what follows them. -/
def hexValue (mode : Mode) : Nat → Nat → List Char → Option (Nat × List Char)
  | 0, value, cs => some (value, cs)
  | n + 1, value, cs =>
    match mode.skip cs with
    | [] => none
    | c :: cs => do hexValue mode n (16 * value + (← hexDigit? c)) cs

/-- A character given by its code point in `n` hexadecimal digits. -/
def codePoint (mode : Mode) (n : Nat) (cs : List Char) : Option (Atom × List Char) := do
  let (value, rest) ← hexValue mode n 0 cs
  if value.isValidChar then some (.literal (Char.ofNat value) (n == 2), rest) else none

/-! ## Escapes -/

/-- What follows a backslash. ASCII signs stand for themselves; of letters and digits, only
those that have a meaning may follow. -/
def escape (mode : Mode) : List Char → Option (Atom × List Char)
  | [] => none
  | 'x' :: cs => codePoint mode 2 cs
  | 'u' :: cs => codePoint mode 4 cs
  | 'U' :: cs => codePoint mode 8 cs
  | 'a' :: cs => some (.literal '\x07' false, cs)
  | 'f' :: cs => some (.literal '\x0c' false, cs)
  | 't' :: cs => some (.literal '\t' false, cs)
  | 'n' :: cs => some (.literal '\n' false, cs)
  | 'r' :: cs => some (.literal '\r' false, cs)
  | 'v' :: cs => some (.literal '\x0b' false, cs)
  | c :: cs =>
    if c ∈ ['d', 's', 'w'] then some (.category false, cs)
    else if c ∈ ['D', 'S', 'W'] then some (.category true, cs)
    else if c ∈ ['A', 'z'] then some (.place false, cs)
    else if c ∈ ['b', 'B', '<', '>'] then some (.place true, cs)
    else if c.toNat < 128 && !c.isAlphanum then some (.literal c false, cs)
    else none

namespace Atom

/-- Whether an atom outside of a class can be matched without tables of letters and without
tearing a character apart. -/
def sound (mode : Mode) : Atom → Bool
  | .literal c byHex => !mode.foldsLetters && (mode.unicode || !(byHex && 128 ≤ c.toNat))
  | .category negated => !mode.unicode && !negated
  | .place _ => true

/-- Whether an atom is the edge of a word of any letters. -/
def isOpenEdge (mode : Mode) : Atom → Bool
  | .place wordEdge => wordEdge && mode.unicode
  | _ => false

/-- Whether an atom may stand in a class. -/
def soundInClass (mode : Mode) : Atom → Bool
  | .literal c _ => !mode.foldsLetters && (mode.unicode || c.toNat < 128)
  | .category negated => !mode.unicode && !negated
  | .place _ => false

end Atom

end KeyRoute.Pattern
