-- Which values can be read in full, and which can at least be passed over. Numbers are read late,
-- so a document may hold numbers without a value as long as nobody comes by.
import KeyRoute.Document.Toml.Scalar

namespace KeyRoute.Toml

/-! ## Reading in full -/

/-- The key under which a table hands over a date or time as a text. -/
def momentKey : String := "$__toml_private_datetime"

/-- Whether a table hands over a date or time as it should; `none` if it does not try to, since
another key comes first. -/
def handsOverMoment? : Entries → Option Bool
  | [] => none
  | (key, value) :: _ =>
    if key == momentKey then
      match value with
      | .string text => some (isMoment text.toList)
      | _ => some false
    else none

mutual

/-- Whether a value can be read in full: all integers have 64 bits, and all other numbers and
the dates and times that are handed over have a value. -/
def readable : Toml → Bool
  | .integer value => Int64.minValue.toInt ≤ value && value ≤ Int64.maxValue.toInt
  | .unreadable _ => false
  | .array items => itemsReadable items
  | .table _ entries => (handsOverMoment? entries).getD (entriesReadable entries)
  | .tables elements => elementsReadable elements
  | .string _ | .float _ | .boolean _ | .moment => true

def itemsReadable : List Toml → Bool
  | [] => true
  | item :: items => item.readable && itemsReadable items

def entriesReadable : List (String × Toml) → Bool
  | [] => true
  | (_, value) :: entries => value.readable && entriesReadable entries

def elementsReadable : List (List (String × Toml)) → Bool
  | [] => true
  | entries :: elements =>
    (handsOverMoment? entries).getD (entriesReadable entries) && elementsReadable elements

end

/-! ## Passing over -/

mutual

/-- Passes over a value that nobody asked for, in order, up to the first number without a
value. -/
def passOver : Toml → Except Mismatch Unit
  | .unreadable kind => .error (.overflow kind)
  | .array items => passOverItems items
  | .table _ entries => passOverEntries entries
  | .tables elements => passOverElements elements
  | .string _ | .integer _ | .float _ | .boolean _ | .moment => .ok ()

def passOverItems : List Toml → Except Mismatch Unit
  | [] => .ok ()
  | item :: items => do
    item.passOver
    passOverItems items

def passOverEntries : List (String × Toml) → Except Mismatch Unit
  | [] => .ok ()
  | (_, value) :: entries => do
    value.passOver
    passOverEntries entries

def passOverElements : List (List (String × Toml)) → Except Mismatch Unit
  | [] => .ok ()
  | entries :: elements => do
    passOverEntries entries
    passOverElements elements

end

end KeyRoute.Toml
