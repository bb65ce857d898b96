-- The field that a filter directive may name, with the value that it may ask for: the kinds
-- of values, how a text becomes one, their order and their text.
import KeyRoute.Decimal.Text
import KeyRoute.Decimal.Digits
import KeyRoute.Text.Bytes
import KeyRoute.Filter.Pattern.Expression

namespace KeyRoute.Filter

/-- Why a text is no filter. -/
inductive Fault where
  | directive
  | level
  | pattern (flaw : Pattern.Flaw)
deriving DecidableEq

def Fault.message : Fault → String
  | .directive => "invalid filter directive"
  | .level =>
    "error parsing level filter: expected one of \"off\", \"error\", \"warn\", \"info\", " ++
      "\"debug\", \"trace\", or a number 0-5"
  | .pattern .malformed => "invalid field filter: error building NFA"
  | .pattern .openEdge =>
    "invalid field filter: unsupported regex feature for DFAs: cannot build DFAs for regexes " ++
      "with Unicode word boundaries; switch to ASCII word boundaries, or heuristically enable " ++
      "Unicode word boundaries or use a different regex engine"

/-! ## Values -/

/-- A value that a field is to have. -/
inductive Value where
  | bool (value : Bool)
  | float (value : Decimal.Binary64)
  | nan
  | unsigned (value : Nat)
  | signed (value : Int)
  /-- Any other text is a match expression. -/
  | pattern (text : String)

namespace Value

/-- Numbers in a filter are written in full and without a trailing zero. -/
def floatStyle : Decimal.Style := { tie := .greater, pointed := false, full := none }

def text : Value → String
  | .bool value => if value then "true" else "false"
  | .float value => value.text floatStyle
  | .nan => Decimal.Binary64.nan.text floatStyle
  | .unsigned value => toString value
  | .signed value => toString value
  | .pattern text => text

/-- The place of a kind among the kinds. -/
def kind : Value → Nat
  | .bool _ => 0
  | .float _ => 1
  | .nan => 2
  | .unsigned _ => 3
  | .signed _ => 4
  | .pattern _ => 5

/-- Values are ordered by kind and then by value. -/
def order : Value → Value → Ordering
  | .bool a, .bool b => compare a b
  | .float a, .float b => a.order b
  | .unsigned a, .unsigned b => compare a b
  | .signed a, .signed b => compare a b
  | .pattern a, .pattern b => Text.order a b
  | a, b => compare a.kind b.kind

/-- An exponent: a sign and digits after the letter, or nothing at all. -/
def exponent? : List Char → Option Int
  | [] => some 0
  | c :: cs => if c == 'e' || c == 'E' then Decimal.integer? cs else none

/-- The size of a floating point number in digits: some of them before or after the point, and
maybe an exponent. -/
def floatDigits? (negative : Bool) (cs : List Char) : Option Decimal.Binary64 :=
  let whole := cs.takeWhile Char.isDigit
  let rest := cs.dropWhile Char.isDigit
  let fraction := if rest.head? = some '.' then (rest.drop 1).takeWhile Char.isDigit else []
  let rest := if rest.head? = some '.' then (rest.drop 1).dropWhile Char.isDigit else rest
  if whole.isEmpty && fraction.isEmpty then none
  else (exponent? rest).map fun power => .ofDigits negative whole fraction power

/-- A floating point number: digits or a name, after at most a sign. -/
def float? (cs : List Char) : Option Decimal.Binary64 :=
  let (negative, rest) := Decimal.splitSign cs
  let name := String.ofList (rest.map Char.toLower)
  if name = "nan" then some .nan
  else if name = "inf" || name = "infinity" then some (.infinite negative)
  else floatDigits? negative rest

/-- Whether an integer has 64 bits with its sign. -/
def signedWord (i : Int) : Bool := Int64.minValue.toInt ≤ i && i ≤ Int64.maxValue.toInt

/-- The value that a text asks for: the first kind that has such a text. An expression has to
be well formed. -/
def parse (cs : List Char) : Except Fault Value :=
  if cs = "true".toList then .ok (.bool true)
  else if cs = "false".toList then .ok (.bool false)
  else match (Decimal.unsigned? cs).filter (· < UInt64.size) with
  | some n => .ok (.unsigned n)
  | none =>
    match (Decimal.integer? cs).filter signedWord with
    | some i => .ok (.signed i)
    | none =>
      match float? cs with
      | some .nan => .ok .nan
      | some x => .ok (.float x)
      | none =>
        match Pattern.flaw? cs with
        | none => .ok (.pattern (String.ofList cs))
        | some flaw => .error (.pattern flaw)

end Value

/-! ## Fields -/

/-- A field that a span or an event is to have, and maybe its value. -/
structure Field where
  name : String
  value : Option Value

/-- Nothing stands before something. -/
def optionOrder (order : α → α → Ordering) : Option α → Option α → Ordering
  | none, none => .eq
  | none, some _ => .lt
  | some _, none => .gt
  | some a, some b => order a b

namespace Field

/-- Fields with a value are greater; then the names and the values decide. -/
def order (a b : Field) : Ordering :=
  (compare a.value.isSome b.value.isSome).then
    ((Text.order a.name b.name).then (optionOrder Value.order a.value b.value))

def text (field : Field) : String :=
  match field.value with
  | none => field.name
  | some value => field.name ++ "=" ++ value.text

/-- A field from its text: the name up to an equals sign, then the value up to another one.
What follows that is ignored. -/
def parse (cs : List Char) : Except Fault Field := do
  let name := cs.takeWhile (· != '=')
  match cs.drop name.length with
  | [] => return ⟨String.ofList name, none⟩
  | _ :: rest => return ⟨String.ofList name, some (← Value.parse (rest.takeWhile (· != '=')))⟩

end Field

end KeyRoute.Filter
