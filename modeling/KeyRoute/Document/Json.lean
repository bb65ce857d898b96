-- JSON values, their compact text, and what a message says of one.
import KeyRoute.Decimal.Text
import KeyRoute.Document.Mismatch

namespace KeyRoute

/-- A JSON value. A number is an integer where it was written as one of at most 64 bits, and
else a floating point number. -/
inductive Json where
  | null
  | bool (value : Bool)
  | int (value : Int)
  | float (value : Decimal.Binary64)
  | str (value : String)
  | arr (items : List Json)
  | obj (entries : List (String × Json))

namespace Json

/-- The value at a key of an object. -/
def valueAt? (entries : List (String × Json)) (key : String) : Option Json :=
  (entries.find? fun e => e.1 == key).map (·.2)

/-! ## Text -/

/-- One character of a string. -/
def charText (c : Char) : List Char :=
  if c = '"' then ['\\', '"']
  else if c = '\\' then ['\\', '\\']
  else if c = '\n' then ['\\', 'n']
  else if c = '\r' then ['\\', 'r']
  else if c = '\t' then ['\\', 't']
  else if c = '\x08' then ['\\', 'b']
  else if c = '\x0c' then ['\\', 'f']
  else if c.toNat < 0x20 then
    ['\\', 'u', '0', '0', Nat.digitChar (c.toNat / 16), Nat.digitChar (c.toNat % 16)]
  else [c]

def stringText (s : String) : List Char := '"' :: s.toList.flatMap charText ++ ['"']

/-- Numbers are written in full while the leading digit stands between the fifth place after
the point and the sixteenth before it. -/
def floatStyle : Decimal.Style := { tie := .even, pointed := true, full := some (-5, 15) }

mutual

/-- The text of a value, without blanks. -/
def chars : Json → List Char
  | .null => "null".toList
  | .bool value => (if value then "true" else "false").toList
  | .int value => (toString value).toList
  | .float value => (value.text floatStyle).toList
  | .str value => stringText value
  | .arr items => '[' :: itemsChars items ++ [']']
  | .obj entries => '\x7b' :: entriesChars entries ++ ['\x7d']

def itemsChars : List Json → List Char
  | [] => []
  | [item] => item.chars
  | item :: items => item.chars ++ ',' :: itemsChars items

def entriesChars : List (String × Json) → List Char
  | [] => []
  | [(key, value)] => stringText key ++ ':' :: value.chars
  | (key, value) :: entries =>
    stringText key ++ ':' :: value.chars ++ ',' :: entriesChars entries

end

/-- The compact text of a value. -/
def compact (value : Json) : String := String.ofList value.chars

/-! ## Messages -/

/-- What a message says of a value. -/
def found : Json → Found
  | .null => .null
  | .bool value => .boolean value
  | .int value => .integer value
  | .float value => .float (value.text floatStyle)
  | .str value => .text value
  | .arr _ => .sequence
  | .obj _ => .map

end Json

end KeyRoute
