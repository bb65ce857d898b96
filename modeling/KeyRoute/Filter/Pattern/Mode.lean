-- The flags of a match expression, and the blanks and comments that it may hold under one of
-- them.
import KeyRoute.Text.Blank

namespace KeyRoute.Pattern

/-- The flags in force at some place of an expression. -/
structure Mode where
  /-- Letters match in both cases. -/
  folded : Bool
  /-- Characters are matched, and not bytes. -/
  unicode : Bool
  /-- Blanks and comments are skipped. -/
  spaced : Bool

namespace Mode

/-- The flags at the start of an expression. -/
def initial : Mode := { folded := false, unicode := true, spaced := false }

/-- A flag letter switched on or off; `none` for a letter that is no flag. -/
def set (mode : Mode) (on : Bool) : Char → Option Mode
  | 'i' => some { mode with folded := on }
  | 'u' => some { mode with unicode := on }
  | 'x' => some { mode with spaced := on }
  | 'm' | 's' | 'U' | 'R' => some mode
  | _ => none

/-- Whether the letters are asked for whose other case is matched too. That takes a table of
letters, which there is not, so such an expression is refused. -/
def foldsLetters (mode : Mode) : Bool := mode.unicode && mode.folded

end Mode

/-- What follows blanks and comments; a comment runs to the end of its line. -/
def skipBlanks (inComment : Bool) : List Char → List Char
  | [] => []
  | c :: cs =>
    if inComment then skipBlanks (c != '\n') cs
    else if Text.isBlank c then skipBlanks false cs
    else if c == '#' then skipBlanks true cs
    else c :: cs

namespace Mode

/-- What follows the blanks and comments that count for nothing. -/
def skip (mode : Mode) (cs : List Char) : List Char :=
  if mode.spaced then skipBlanks false cs else cs

/-- The character that comes next, seen past blanks and past one sign of a comment. -/
def glance (mode : Mode) (cs : List Char) : Option Char :=
  if mode.spaced then
    let ahead := cs.dropWhile Text.isBlank
    let ahead := if ahead.head? = some '#' then (ahead.drop 1).dropWhile Text.isBlank else ahead
    ahead.head?.or cs.head?
  else cs.head?

end Mode

end KeyRoute.Pattern
