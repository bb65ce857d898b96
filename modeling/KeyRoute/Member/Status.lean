-- The reachability of a cluster member, with a reader and a writer for texts and another two for
-- documents. The reader for texts ignores the case of ASCII letters, that for documents does not.
-- Both know the same five spellings.
import KeyRoute.Document.Json

namespace KeyRoute

/-- The reachability of a cluster member, as the failure detector reports it. -/
inductive Status where
  /-- The member answers probes. -/
  | alive
  /-- The member missed probes but is not declared dead yet. -/
  | suspect
  /-- The member is declared dead. -/
  | faulty
  /-- The member left on its own. -/
  | leave
deriving DecidableEq

namespace Status

/-- The name of a status in a text. -/
def name : Status → String
  | .alive => "alive"
  | .suspect => "suspect"
  | .faulty => "faulty"
  | .leave => "leave"

/-- Whether a member in this state must get no more traffic. -/
def unreachable : Status → Bool
  | .faulty | .leave => true
  | .alive | .suspect => false

/-! ## Texts -/

/-- The spellings that the reader of texts knows. -/
def spellings : List (String × Status) :=
  [("alive", .alive), ("suspect", .suspect), ("faulty", .faulty), ("left", .leave),
    ("leave", .leave)]

/-- Whether two texts differ at most in the case of ASCII letters. -/
def sameLetters (a b : String) : Bool := a.toList.map Char.toLower == b.toList.map Char.toLower

/-- The status that a text spells, in any case of the ASCII letters. -/
def parse? (s : String) : Option Status :=
  (spellings.find? fun spelling => sameLetters s spelling.1).map (·.2)

/-! ## Documents -/

/-- The status of a name in a document. -/
def ofName : String → Except Mismatch Status
  | "alive" => .ok .alive
  | "suspect" => .ok .suspect
  | "faulty" => .ok .faulty
  | "leave" => .ok .leave
  | "left" => .ok .leave
  | other => .error (.unknownStatus other)

/-- The name of a status in a document. -/
def documentName : Status → String
  | .alive => "alive"
  | .suspect => "suspect"
  | .faulty => "faulty"
  | .leave => "leave"

/-- A status is written as its name. -/
def toJson (status : Status) : Json := .str status.documentName

/-- A status is read from its name, or from a map with its name as the only key and null as
the value. -/
def ofJson : Json → Except Mismatch Status
  | .str s => ofName s
  | .obj [(key, value)] => do
    let status ← ofName key
    match value with
    | .null => .ok status
    | other => .error (.wrongKind other.found .nothing)
  | .obj _ => .error .notSingle
  | other => .error (.wrongKind other.found .status)

theorem ofJson_toJson (status : Status) : ofJson status.toJson = .ok status := by
  cases status <;> rfl

/-- Texts and documents name a status alike. -/
theorem documentName_eq_name (status : Status) : status.documentName = status.name := by
  cases status <;> rfl

theorem parse?_name (status : Status) : parse? status.name = some status := by
  cases status <;> decide +kernel

end Status

end KeyRoute
