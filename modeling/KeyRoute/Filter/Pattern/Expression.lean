-- The match expressions that a field of a filter may hold, judged only by their form: what is
-- grouped is closed, what is repeated is there, no class needs tables of letters, and nothing
-- nests too deep. A field text holds no closing brace behind an opening one, so nothing is repeated
-- by number.
import KeyRoute.Filter.Pattern.Bracket
import KeyRoute.Filter.Pattern.Group

namespace KeyRoute.Pattern

/-! ## Expressions on the way -/

/-- A part of an expression. -/
structure Part where
  depth : Nat
  /-- Flags are no part that a repetition could follow. -/
  repeatable : Bool

/-- An expression, or the content of a group, as far as it is read. -/
structure Draft where
  /-- The depths of the alternatives that are complete. -/
  branches : List Nat
  /-- The parts of the alternative at hand, the last one first. -/
  parts : List Part

namespace Draft

def empty : Draft := ⟨[], []⟩

def add (depth : Nat) (draft : Draft) : Draft :=
  { draft with parts := ⟨depth, true⟩ :: draft.parts }

def addFlags (draft : Draft) : Draft := { draft with parts := ⟨0, false⟩ :: draft.parts }

/-- The depths of all alternatives, the one at hand first. -/
def alternatives (draft : Draft) : List Nat :=
  depthOf (draft.parts.map (·.depth)) :: draft.branches

/-- How deep the expression nests. -/
def depth (draft : Draft) : Nat := depthOf draft.alternatives

/-- The next alternative begins. -/
def branch (draft : Draft) : Draft := ⟨draft.alternatives, []⟩

/-- The last part repeated, if there is one. -/
def again (draft : Draft) : Option Draft :=
  match draft.parts with
  | part :: parts =>
    if part.repeatable then some { draft with parts := ⟨part.depth + 1, true⟩ :: parts } else none
  | [] => none

end Draft

/-! ## Reading -/

/-- How far an expression is read. -/
structure Reading where
  /-- The open groups from the inside: the flags around each, and what stands before it. -/
  outer : List (Mode × Draft)
  mode : Mode
  here : Draft
  /-- The names of the groups so far. -/
  names : List (List Char)
  /-- Whether there was an edge of a word of any letters. -/
  openEdge : Bool

namespace Reading

def start : Reading := ⟨[], .initial, .empty, [], false⟩

def add (depth : Nat) (reading : Reading) : Reading :=
  { reading with here := reading.here.add depth }

/-- The content of a group with these flags begins. -/
def enter (mode : Mode) (reading : Reading) : Reading :=
  { reading with
    outer := (reading.mode, reading.here) :: reading.outer
    mode := mode
    here := .empty }

/-- The group at hand ends. -/
def leave (reading : Reading) : Option Reading :=
  match reading.outer with
  | [] => none
  | (mode, before) :: outer =>
    some { reading with
      outer := outer
      mode := mode
      here := before.add (1 + reading.here.depth) }

/-- A bracket opens something. -/
def bracket (reading : Reading) : Opening → Option Reading
  | .group mode => some (reading.enter mode)
  | .named name =>
    if reading.names.contains name then none
    else some { reading.enter reading.mode with names := name :: reading.names }
  | .flags mode => some { reading with mode := mode, here := reading.here.addFlags }

/-- An atom outside of a class. -/
def atom (reading : Reading) (a : Atom) : Option Reading :=
  if a.sound reading.mode then
    some { reading.add 0 with openEdge := reading.openEdge || a.isOpenEdge reading.mode }
  else none

/-- The last part is repeated, which a question mark may follow. -/
def again (reading : Reading) (rest : List Char) : Option (Reading × List Char) := do
  let here ← reading.here.again
  return ({ reading with here := here }, if rest.head? = some '?' then rest.drop 1 else rest)

end Reading

/-- One step: the character `c`, and of what follows it as much as belongs to it. -/
def step (reading : Reading) (c : Char) (cs : List Char) : Option (Reading × List Char) :=
  let mode := reading.mode
  if c == '(' then do
    let (opened, rest) ← opening mode cs
    return (← reading.bracket opened, rest)
  else if c == ')' then reading.leave.map (·, cs)
  else if c == '|' then some ({ reading with here := reading.here.branch }, cs)
  else if c == '[' then do
    let (depth, rest) ← classAfterBracket mode cs
    return (reading.add depth, rest)
  else if c == '*' || c == '+' || c == '?' then reading.again cs
  else if c == '\x7b' then none
  else if c == '\\' then do
    let (a, rest) ← escape mode cs
    return (← reading.atom a, rest)
  else if c == '^' || c == '$' then some (reading.add 0, cs)
  else if c == '.' then (if mode.unicode then some (reading.add 0, cs) else none)
  else (reading.atom (.literal c false)).map (·, cs)

/-- Reads an expression to its end. -/
def readAll : Nat → Reading → List Char → Option Reading
  | 0, _, _ => none
  | fuel + 1, reading, cs =>
    match reading.mode.skip cs with
    | [] => some reading
    | c :: cs => do
      let (reading, rest) ← step reading c cs
      readAll fuel reading rest

/-- What is wrong with an expression. -/
inductive Flaw where
  | malformed
  /-- Whether a place is the edge of a word cannot be told of all letters. -/
  | openEdge
deriving DecidableEq

/-- How deep an expression may nest. -/
def greatestDepth : Nat := 250

/-- What is wrong with a text as a match expression, if anything is. -/
def flaw? (cs : List Char) : Option Flaw :=
  match readAll (cs.length + 1) .start cs with
  | none => some .malformed
  | some reading =>
    if !reading.outer.isEmpty || greatestDepth < reading.here.depth then some .malformed
    else if reading.openEdge then some .openEdge
    else none

end KeyRoute.Pattern
