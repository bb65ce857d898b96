-- Filter directives: what they are about, their order from the most to the least specific,
-- their text, and the reading of one. A text is read without its blanks but cut up with them, and a
-- cut through a character is a panic.
import KeyRoute.Halt
import KeyRoute.Log.Level
import KeyRoute.Filter.Field

namespace KeyRoute.Filter

/-- One directive of a filter: up to which level log lines pass, for those of a target, inside
a span, or with a field. A comma ends a directive, so it names at most one field. -/
structure Directive where
  target : Option String
  span : Option String
  field : Option Field
  level : Level

namespace Directive

/-- The directive that lets everything through. -/
def everything : Directive := ⟨none, none, none, .trace⟩

/-- Whether the directive asks for more than a target. -/
def isDynamic (d : Directive) : Bool := d.span.isSome || d.field.isSome

/-- Whether the directive asks for the value of a field. -/
def asksValue (d : Directive) : Bool := d.field.any (·.value.isSome)

/-- How much longer the target of `a` is than that of `b`, in bytes. -/
def targetSize (a b : Directive) : Ordering :=
  optionOrder (fun s t : String => compare s.utf8ByteSize t.utf8ByteSize) a.target b.target

/-- How specific a directive is: the length of its target, then whether it names a span, then
whether it names a field; among equals the texts decide. -/
def specificity (a b : Directive) : Ordering :=
  (targetSize a b).then
    ((compare a.span.isSome b.span.isSome).then
      ((compare a.field.isSome b.field.isSome).then
        ((optionOrder Text.order a.target b.target).then
          ((optionOrder Text.order a.span b.span).then
            (optionOrder Field.order a.field b.field)))))

/-- The directive without its span and the value of its field, if it asks for neither: so it
can be decided for a log line alone. -/
def static? (d : Directive) : Option Directive :=
  if d.span.isSome || d.asksValue then none else some d

def text (d : Directive) : String :=
  let place :=
    d.target.getD "" ++
      (if d.isDynamic then
        "[" ++ d.span.getD "" ++
          (match d.field with
            | none => ""
            | some field => "\x7b" ++ field.text ++ "\x7d") ++ "]"
      else "")
  (if d.target.isSome || d.isDynamic then place ++ "=" else "") ++ d.level.name

end Directive

/-! ## Reading a directive -/

/-- The characters after the first `n` bytes, unless the cut would tear a character apart. -/
def dropBytes : Nat → List Char → Option (List Char)
  | 0, cs => some cs
  | _ + 1, [] => none
  | n + 1, c :: cs => if c.utf8Size ≤ n + 1 then dropBytes (n + 1 - c.utf8Size) cs else none

/-- The characters in the first `n` bytes, unless the cut would tear a character apart. -/
def takeBytes : Nat → List Char → Option (List Char)
  | 0, _ => some []
  | _ + 1, [] => none
  | n + 1, c :: cs =>
    if c.utf8Size ≤ n + 1 then (takeBytes (n + 1 - c.utf8Size) cs).map (c :: ·) else none

/-- A cut at a byte, which is a panic if it tears a character apart. -/
def cut : Option (List Char) → Except (Halt Fault) (List Char)
  | some piece => .ok piece
  | none => .error .panic

/-- A piece of a directive, given by the bytes at which it starts and ends. -/
def piece (cs : List Char) (start stop : Nat) : Except (Halt Fault) (List Char) :=
  cut ((dropBytes start cs).bind (takeBytes (stop - start)))

/-- The piece of a directive from a byte to the end. -/
def pieceFrom (cs : List Char) (start : Nat) : Except (Halt Fault) (List Char) :=
  cut (dropBytes start cs)

/-- How far the reading of a directive is; the numbers are bytes at which a piece starts. -/
inductive Stage where
  | start
  /-- In a target, which may turn out to be a level. -/
  | target (start : Nat)
  | span (start : Nat)
  | field (start : Nat)
  | fieldDone
  | spanDone
  | level (start : Nat)

/-- The characters that may start a directive, apart from a bracket. -/
def startsTarget (c : Char) : Bool :=
  c == '-' || c == ':' || c == '_' || Text.isAlphanumeric c

/-- One character, read at byte `i`. The pieces are cut out of `cs`. -/
def advance (cs : List Char) (i : Nat) (c : Char) :
    Stage → Directive → Except (Halt Fault) (Stage × Directive)
  | .start, d =>
    if c == '[' then .ok (.span (i + 1), d)
    else if startsTarget c then .ok (.target i, d)
    else .error (.fault .directive)
  | .target start, d =>
    if c == '=' then do
      return (.level (i + 1), { d with target := String.ofList (← piece cs start i) })
    else if c == '[' then do
      return (.span (i + 1), { d with target := String.ofList (← piece cs start i) })
    else .ok (.target start, d)
  | .span start, d =>
    if c == ']' then do
      return (.spanDone, { d with span := String.ofList (← piece cs start i) })
    else if c == '\x7b' then do
      let name ← piece cs start i
      let span := if name.isEmpty then none else some (String.ofList name)
      return (.field (i + 1), { d with span := span })
    else .ok (.span start, d)
  | .field start, d =>
    if c == '\x7d' then do
      let text ← piece cs start i
      if text.isEmpty then .error (.fault .directive)
      else return (.fieldDone, { d with field := ← (Field.parse text).mapError .fault })
    else .ok (.field start, d)
  | .fieldDone, d => if c == ']' then .ok (.spanDone, d) else .error (.fault .directive)
  | .spanDone, d => if c == '=' then .ok (.level (i + 1), d) else .error (.fault .directive)
  | .level start, d => .ok (.level start, d)

/-- The characters from byte `i` on, one after the other. -/
def advanceAll (cs : List Char) : Nat → List Char → Stage → Directive →
    Except (Halt Fault) (Stage × Directive)
  | _, [], stage, d => .ok (stage, d)
  | i, c :: rest, stage, d => do
    let (stage, d) ← advance cs i c stage d
    advanceAll cs (i + c.utf8Size) rest stage d

/-- What the end of the text makes of the last piece. A target that names a level is one. -/
def finish (cs : List Char) : Stage → Directive → Except (Halt Fault) Directive
  | .target start, d => do
    let text ← pieceFrom cs start
    if text.isEmpty then return { d with target := none, level := .trace }
    else match Level.parse? text with
      | some level => return { d with target := none, level := level }
      | none => return { d with target := some (String.ofList text), level := .trace }
  | .level start, d => do
    let text ← pieceFrom cs start
    if text.isEmpty then return { d with level := .trace }
    else match Level.parse? text with
      | some level => return { d with level := level }
      | none => .error (.fault .level)
  | .spanDone, d => .ok d
  | .start, _ | .span _, _ | .field _, _ | .fieldDone, _ => .error (.fault .directive)

/-- The directive of a text. The text is read without the blanks at its ends, but the pieces
are cut out of the whole text, so a leading blank shifts them. -/
def Directive.parse (cs : List Char) : Except (Halt Fault) Directive := do
  let (stage, d) ← advanceAll cs 0 (Text.trim cs) .start .everything
  finish cs stage d

end KeyRoute.Filter
