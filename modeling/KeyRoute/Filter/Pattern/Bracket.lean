-- The classes of a match expression: characters, ranges, named classes and classes inside of
-- classes between brackets, put together by signs for sets. How deep it all nests is measured.
import KeyRoute.Filter.Pattern.Escape

namespace KeyRoute.Pattern

/-- How deep parts nest that stand side by side; a part alone nests no deeper than by itself. -/
def depthOf : List Nat → Nat
  | [] => 0
  | [depth] => depth
  | depth :: depths => 1 + depths.foldl max depth

/-- A class that is still open. -/
structure OpenClass where
  /-- The depths of what it holds since the last sign for sets, the last one first. -/
  items : List Nat
  /-- The depth of what stands before that sign. -/
  before : Option Nat

namespace OpenClass

def add (depth : Nat) (cls : OpenClass) : OpenClass :=
  { cls with items := depth :: cls.items }

/-- How deep the class nests below its brackets. -/
def depth (cls : OpenClass) : Nat :=
  match cls.before with
  | none => depthOf cls.items
  | some before => 1 + max before (depthOf cls.items)

/-- The class after a sign for sets. -/
def combine (cls : OpenClass) : OpenClass := ⟨[], some cls.depth⟩

end OpenClass

/-- The names of classes of ASCII characters. -/
def asciiClasses : List String :=
  ["alnum", "alpha", "ascii", "blank", "cntrl", "digit", "graph", "lower", "print", "punct",
    "space", "upper", "word", "xdigit"]

/-- A named class after its first bracket: whether it is negated, and what follows it. -/
def namedClass? : List Char → Option (Bool × List Char)
  | ':' :: cs =>
    let negated := cs.head? = some '^'
    let cs := if negated then cs.drop 1 else cs
    let name := cs.takeWhile (· != ':')
    match cs.drop name.length with
    | ':' :: ']' :: rest =>
      if asciiClasses.any (·.toList == name) then some (negated, rest) else none
    | _ => none
  | _ => none

/-- Whether a class may be negated: the complement of some bytes holds parts of characters. -/
def Mode.negates (mode : Mode) : Bool := mode.unicode

/-- Hyphens at the head of a class, each of them an item, and what follows them. -/
def headHyphens (mode : Mode) : Nat → OpenClass → List Char → OpenClass × List Char
  | 0, cls, cs => (cls, cs)
  | fuel + 1, cls, cs =>
    match cs with
    | '-' :: rest => headHyphens mode fuel (cls.add 0) (mode.skip rest)
    | cs => (cls, cs)

/-- The head of a class after its bracket: a negation, hyphens, and a bracket that comes first
and stands for itself. -/
def classHead (mode : Mode) (cs : List Char) : Option (OpenClass × List Char) :=
  let cs := mode.skip cs
  let negated := cs.head? = some '^'
  let cs := if negated then mode.skip (cs.drop 1) else cs
  let (cls, cs) := headHyphens mode cs.length ⟨[], none⟩ cs
  let first := cls.items.isEmpty && cs.head? = some ']'
  let cls := if first then cls.add 0 else cls
  let cs := if first then mode.skip (cs.drop 1) else cs
  if cs.isEmpty || (negated && !mode.negates) || (!cls.items.isEmpty && mode.foldsLetters) then
    none
  else some (cls, cs)

/-- A character or an escape in a class, and what follows it. -/
def classAtom (mode : Mode) : List Char → Option (Atom × List Char)
  | [] => none
  | '\\' :: cs => escape mode cs
  | c :: cs => some (.literal c false, cs)

/-- The ends of a range are characters in order. -/
def soundRange : Atom → Atom → Bool
  | .literal a _, .literal b _ => a ≤ b
  | _, _ => false

/-- A character, an escape or a range in a class, and what follows it. A hyphen before a bracket
or another hyphen makes no range. -/
def classItem (mode : Mode) (cs : List Char) : Option (List Char) := do
  let (first, rest) ← classAtom mode cs
  let rest := mode.skip rest
  if !first.soundInClass mode then none
  else match rest with
    | '-' :: ahead =>
      if mode.glance ahead = some ']' || mode.glance ahead = some '-' then some rest
      else do
        let (last, rest) ← classAtom mode (mode.skip ahead)
        if last.soundInClass mode && soundRange first last then some rest else none
    | _ => some rest

/-- The rest of some classes of which each holds the one before it: the depth of the outermost
one, and what follows it. -/
def classRest (mode : Mode) : Nat → OpenClass → List OpenClass → List Char →
    Option (Nat × List Char)
  | 0, _, _, _ => none
  | fuel + 1, cls, outer, cs =>
    match mode.skip cs with
    | [] => none
    | '[' :: cs =>
      match namedClass? cs with
      | some (negated, rest) =>
        if mode.foldsLetters || (negated && !mode.negates) then none
        else classRest mode fuel (cls.add 0) outer rest
      | none => do
        let (inner, cs) ← classHead mode cs
        classRest mode fuel inner (cls :: outer) cs
    | ']' :: cs =>
      match outer with
      | [] => some (1 + cls.depth, cs)
      | around :: outer => classRest mode fuel (around.add (1 + cls.depth)) outer cs
    | '&' :: '&' :: cs => classRest mode fuel cls.combine outer cs
    | '-' :: '-' :: cs => classRest mode fuel cls.combine outer cs
    | '~' :: '~' :: cs => classRest mode fuel cls.combine outer cs
    | cs => do classRest mode fuel (cls.add 0) outer (← classItem mode cs)

/-- A class after its first bracket: how deep it nests, and what follows it. -/
def classAfterBracket (mode : Mode) (cs : List Char) : Option (Nat × List Char) := do
  let (cls, rest) ← classHead mode cs
  classRest mode (cs.length + 1) cls [] rest

end KeyRoute.Pattern
