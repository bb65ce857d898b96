-- What an opening bracket of a match expression begins: a group, maybe with a name or with flags
-- of its own, or a change of flags.
import KeyRoute.Text.Alphanumeric
import KeyRoute.Filter.Pattern.Mode

namespace KeyRoute.Pattern

/-- What a bracket opens. -/
inductive Opening where
  /-- A group in which these flags hold. -/
  | group (mode : Mode)
  /-- A group with a name. -/
  | named (name : List Char)
  /-- No group: the flags change for the rest of the enclosing one. -/
  | flags (mode : Mode)

/-- Flag letters up to a colon or a closing bracket. No letter comes twice, and a minus is
followed by a letter. -/
def flagLetters (mode : Mode) (on : Bool) (seen : List Char) :
    List Char → Option (Opening × List Char)
  | [] => none
  | ':' :: cs => if seen.head? = some '-' then none else some (.group mode, cs)
  | ')' :: cs =>
    if seen.isEmpty || seen.head? = some '-' then none else some (.flags mode, cs)
  | '-' :: cs => if on then flagLetters mode false ('-' :: seen) cs else none
  | c :: cs =>
    if c ∈ seen then none
    else match mode.set on c with
      | some changed => flagLetters changed on (c :: seen) cs
      | none => none

/-- Whether a name of a group may start with a character. -/
def startsName (c : Char) : Bool := c == '_' || Text.isAlphabetic c

/-- Whether a name of a group may go on with a character. -/
def inName (c : Char) : Bool :=
  c == '_' || c == '.' || c == '[' || c == ']' || Text.isAlphanumeric c

/-- The name of a group up to its angle bracket. -/
def groupName (cs : List Char) : Option (Opening × List Char) :=
  let name := cs.takeWhile (· != '>')
  match name, cs.drop name.length with
  | first :: later, '>' :: rest =>
    if startsName first && later.all inName then some (.named name, rest) else none
  | _, _ => none

/-- What stands behind an opening bracket. -/
def opening (mode : Mode) (cs : List Char) : Option (Opening × List Char) :=
  match mode.skip cs with
  | '?' :: 'P' :: '<' :: cs => groupName cs
  | '?' :: '<' :: cs => groupName cs
  | '?' :: cs => flagLetters mode true [] cs
  | cs => some (.group mode, cs)

end KeyRoute.Pattern
