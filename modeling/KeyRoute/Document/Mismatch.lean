-- What is wrong with a document whose text is well formed but which is not the record that
-- was asked for. The two document formats share these causes and their wording.
import KeyRoute.Text.Quoted

namespace KeyRoute

/-- What stands in a document at some place, as messages name it. The text of a floating
point number is part of it, since each format writes those in its own way. -/
inductive Found where
  | null
  | boolean (value : Bool)
  | integer (value : Int)
  | float (digits : String)
  | text (value : String)
  | sequence
  | map
deriving DecidableEq

/-- What a place of a record asks for. -/
inductive Expected where
  | routerConfig
  | memberChange
  | text
  | boolean
  | unsigned
  | status
  | nothing
  | sequence
deriving DecidableEq

/-- The kinds of numbers. -/
inductive NumberKind where
  | integer
  | float
deriving DecidableEq

/-- Why a document is not the record that was asked for. -/
inductive Mismatch where
  /-- A value of another kind. -/
  | wrongKind (found : Found) (expected : Expected)
  /-- An integer below zero where only others have a meaning. -/
  | negative (value : Int)
  /-- A map that is to name one status and has no or several keys. -/
  | notSingle
  | unknownStatus (name : String)
  | missingField (name : String)
  /-- A change given by position with less than an address and a status. -/
  | tooFewElements (count : Nat)
  | tooManyElements (count : Nat)
  /-- A number that has no value of its kind. -/
  | overflow (kind : NumberKind)
deriving DecidableEq

/-! ## Wording -/

/-- What stands behind an integer of more than 64 bits: how many it takes, and whether one of
them is a sign. -/
def widthNote (value : Int) : String :=
  if Int64.minValue.toInt ≤ value && value < Int.ofNat UInt64.size then ""
  else if value < Int.ofNat (Nat.pow 2 127) then " as i128"
  else " as u128"

def Found.description : Found → String
  | .null => "null"
  | .boolean value => "boolean `" ++ (if value then "true" else "false") ++ "`"
  | .integer value => "integer `" ++ toString value ++ "`" ++ widthNote value
  | .float digits => "floating point `" ++ digits ++ "`"
  | .text value => "string " ++ Text.quoted value
  | .sequence => "sequence"
  | .map => "map"

def Expected.description : Expected → String
  | .routerConfig => "struct RouterConfig"
  | .memberChange => "struct MemberChange"
  | .text => "a string"
  | .boolean => "a boolean"
  | .unsigned => "u64"
  | .status => "string or map"
  | .nothing => "unit"
  | .sequence => "a sequence"

def NumberKind.description : NumberKind → String
  | .integer => "integer number"
  | .float => "floating-point number"

def Mismatch.message : Mismatch → String
  | .wrongKind found expected =>
    "invalid type: " ++ found.description ++ ", expected " ++ expected.description
  | .negative value =>
    "invalid value: " ++ (Found.integer value).description ++ ", expected " ++
      Expected.unsigned.description
  | .notSingle => "invalid value: map, expected map with a single key"
  | .unknownStatus name =>
    "unknown variant `" ++ name ++
      "`, expected one of `alive`, `suspect`, `faulty`, `leave`, `left`"
  | .missingField name => "missing field `" ++ name ++ "`"
  | .tooFewElements count =>
    "invalid length " ++ toString count ++ ", expected struct MemberChange with 3 elements"
  | .tooManyElements count =>
    "invalid length " ++ toString count ++ ", expected fewer elements in array"
  | .overflow kind => kind.description ++ " overflowed"

end KeyRoute
