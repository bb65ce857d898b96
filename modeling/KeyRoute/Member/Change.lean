-- One status transition of one member, with its form in documents.
import KeyRoute.Member.Status
import KeyRoute.Text.Blank

namespace KeyRoute

/-- The identity of a node, as the membership layer names it. -/
abbrev Address := String

/-- A status transition of one member. The incarnation is only reported. -/
structure Change where
  address : Address
  status : Status
  incarnation : UInt64
deriving DecidableEq

namespace Change

/-- A change without incarnation. -/
def new (address : Address) (status : Status) : Change := ⟨address, status, 0⟩

/-- A change of nobody: its address is empty or all blank, so it applies to nothing. -/
def malformed (change : Change) : Bool := Text.allBlank change.address

/-- Whether the change takes its member out of service. -/
def evicts (change : Change) : Bool := !change.malformed && change.status.unreachable

/-! ## Documents -/

def toJson (change : Change) : Json :=
  .obj [("address", .str change.address), ("status", change.status.toJson),
    ("incarnation", .int change.incarnation.toNat)]

def addressOfJson : Json → Except Mismatch Address
  | .str s => .ok s
  | other => .error (.wrongKind other.found .text)

/-- An incarnation is an integer of 64 bits without sign. -/
def incarnationOfJson : Json → Except Mismatch UInt64
  | .int value =>
    if value < 0 then .error (.negative value)
    else if value.toNat < UInt64.size then .ok (UInt64.ofNat value.toNat)
    else .error (.wrongKind (.integer value) .unsigned)
  | other => .error (.wrongKind other.found .unsigned)

/-- A field of an object that has to be there. -/
def required (name : String) : Option α → Except Mismatch α
  | some value => .ok value
  | none => .error (.missingField name)

/-- A change from the fields of an object, read in the order of their names. A missing field is
reported only when all the others are sound; other keys are ignored. -/
def ofEntries (entries : List (String × Json)) : Except Mismatch Change := do
  let address ← (Json.valueAt? entries "address").mapM addressOfJson
  let incarnation ← (Json.valueAt? entries "incarnation").mapM incarnationOfJson
  let status ← (Json.valueAt? entries "status").mapM Status.ofJson
  let address ← required "address" address
  let status ← required "status" status
  return ⟨address, status, incarnation.getD 0⟩

/-- A change from its fields by position: address, status and maybe the incarnation. -/
def ofItems : List Json → Except Mismatch Change
  | [] => .error (.tooFewElements 0)
  | [address] => do
    let _ ← addressOfJson address
    .error (.tooFewElements 1)
  | [address, status] => do
    return ⟨← addressOfJson address, ← Status.ofJson status, 0⟩
  | address :: status :: incarnation :: rest => do
    let change : Change :=
      ⟨← addressOfJson address, ← Status.ofJson status, ← incarnationOfJson incarnation⟩
    if rest.isEmpty then return change else .error (.tooManyElements (rest.length + 3))

def ofJson : Json → Except Mismatch Change
  | .obj entries => ofEntries entries
  | .arr items => ofItems items
  | other => .error (.wrongKind other.found .memberChange)

/-- A batch is an array of changes; the first unsound one is reported. -/
def listOfJson : Json → Except Mismatch (List Change)
  | .arr items => items.mapM ofJson
  | other => .error (.wrongKind other.found .sequence)

end Change

end KeyRoute
