-- TOML values, and how tables grow: which keys and headers may still add to a table depends
-- on how the table came about.
import KeyRoute.Decimal.Text
import KeyRoute.Document.Mismatch

namespace KeyRoute

namespace Toml

/-- How a table came about. -/
inductive Origin where
  /-- By its own header; so does the whole document. -/
  | header
  /-- On the way to a table with a header. -/
  | implied
  /-- By a key with dots. -/
  | dotted
  /-- Between braces. -/
  | braces
  /-- By a key with dots between braces. -/
  | dottedInBraces
deriving DecidableEq

end Toml

/-- A TOML value. -/
inductive Toml where
  | string (value : String)
  | integer (value : Int)
  | float (value : Decimal.Binary64)
  /-- What has the form of a number and no value: an integer of more than 128 bits or with digits
  that do not belong to its base, or a floating point number beyond the greatest one. -/
  | unreadable (kind : NumberKind)
  | boolean (value : Bool)
  /-- A date, a time or both. -/
  | moment
  | array (items : List Toml)
  | table (origin : Toml.Origin) (entries : List (String × Toml))
  /-- The tables that stand under one doubled header. -/
  | tables (elements : List (List (String × Toml)))

namespace Toml

/-- The entries of a table, in the order of their keys. -/
abbrev Entries := List (String × Toml)

/-- The value at a key. -/
def valueAt? (entries : Entries) (key : String) : Option Toml :=
  (entries.find? fun e => e.1 == key).map (·.2)

/-- The entries with a value at a key, in the place of an earlier one or where the order of the
keys puts it. -/
def put (key : String) (value : Toml) : Entries → Entries
  | [] => [(key, value)]
  | e :: entries =>
    if e.1 == key then (key, value) :: entries
    else if key < e.1 then (key, value) :: e :: entries
    else e :: put key value entries

theorem valueAt?_put_self (key : String) (value : Toml) (entries : Entries) :
    valueAt? (put key value entries) key = some value := by
  induction entries with
  | nil => simp [put, valueAt?]
  | cons e entries ih =>
    unfold put
    split
    · simp [valueAt?]
    · rename_i h
      split
      · simp [valueAt?]
      · simp only [valueAt?, List.find?_cons, h] at ih ⊢
        exact ih

/-- Each key of a table is greater than all before it. -/
def Ordered (entries : Entries) : Prop := entries.Pairwise fun a b => a.1 < b.1

theorem key_of_mem_put {key : String} {value : Toml} {entries : Entries} {e : String × Toml}
    (h : e ∈ put key value entries) : e.1 = key ∨ e ∈ entries := by
  induction entries with
  | nil => simp_all [put]
  | cons d entries ih =>
    unfold put at h
    split at h
    · simp only [List.mem_cons] at h ⊢
      rcases h with rfl | h
      · exact Or.inl rfl
      · exact Or.inr (Or.inr h)
    · split at h
      · simp only [List.mem_cons] at h ⊢
        rcases h with rfl | h
        · exact Or.inl rfl
        · exact Or.inr h
      · simp only [List.mem_cons] at h ⊢
        rcases h with rfl | h
        · exact Or.inr (Or.inl rfl)
        · exact (ih h).imp_right Or.inr

/-- A table stays in order, so no key stands there twice. -/
theorem ordered_put (key : String) (value : Toml) {entries : Entries} (h : Ordered entries) :
    Ordered (put key value entries) := by
  induction entries with
  | nil => simp [put, Ordered]
  | cons d entries ih =>
    unfold Ordered at h ih ⊢
    have ⟨first, rest⟩ := List.pairwise_cons.mp h
    unfold put
    split
    · rename_i same
      have : d.1 = key := by simpa using same
      exact List.pairwise_cons.mpr ⟨fun e he => this ▸ first e he, rest⟩
    · rename_i other
      have other : d.1 ≠ key := by simpa using other
      split
      · rename_i less
        refine List.pairwise_cons.mpr ⟨fun e he => ?_, h⟩
        rcases List.mem_cons.mp he with rfl | he
        · exact less
        · exact Std.lt_trans less (first e he)
      · rename_i notLess
        refine List.pairwise_cons.mpr ⟨fun e he => ?_, ih rest⟩
        rcases key_of_mem_put he with same | he
        · rw [same]
          rcases Std.lt_trichotomy d.1 key with hlt | heq | hgt
          · exact hlt
          · exact absurd heq other
          · exact absurd hgt notLess
        · exact first e he

/-! ## Growing tables -/

/-- What walks through tables: the path of a header, a key with dots, or one in braces. -/
inductive Walk where
  | header
  | key
  | keyInBraces
deriving DecidableEq

/-- How a table that is met nowhere comes about on a walk. -/
def Walk.origin : Walk → Origin
  | .header => .implied
  | .key => .dotted
  | .keyInBraces => .dottedInBraces

/-- Whether a walk may pass through a table. Braces close a table for good, and a key with
dots does not reach into a table with a header. -/
def Walk.passes : Walk → Origin → Bool
  | .header, origin => origin = .header || origin = .implied || origin = .dotted
  | .key, origin => origin = .implied || origin = .dotted
  | .keyInBraces, origin => origin = .dottedInBraces

/-- Changes the table at the end of a path; of several under one header, the last is meant. -/
def changeAt (walk : Walk) (change : Origin → Entries → Option Entries) :
    List String → Origin → Entries → Option Entries
  | [], origin, entries => change origin entries
  | key :: keys, _, entries =>
    match valueAt? entries key with
    | none => do
      let inner ← changeAt walk change keys walk.origin []
      return put key (.table walk.origin inner) entries
    | some (.table origin inner) =>
      if walk.passes origin then do
        let inner ← changeAt walk change keys origin inner
        return put key (.table origin inner) entries
      else none
    | some (.tables elements) =>
      match elements.getLast? with
      | none => none
      | some inner => do
        let inner ← changeAt walk change keys .header inner
        return put key (.tables (elements.dropLast ++ [inner])) entries
    | some _ => none

/-- Adds a value under a key that is new to its table. A key without dots belongs to the table
where it stands, one with dots to a table that such keys made. -/
def assign (inBraces : Bool) (keys : List String) (value : Toml) (entries : Entries) :
    Option Entries :=
  match keys.getLast? with
  | none => none
  | some last =>
    let path := keys.dropLast
    let add := fun (origin : Origin) (entries : Entries) =>
      let byDots := origin = .dotted || origin = .dottedInBraces
      if byDots = path.isEmpty || (valueAt? entries last).isSome then none
      else some (put last value entries)
    changeAt (if inBraces then .keyInBraces else .key) add path
      (if inBraces then .braces else .header) entries

/-! ## Documents -/

/-- A line of a document. -/
inductive Line where
  | header (keys : List String)
  | doubledHeader (keys : List String)
  | assignment (keys : List String) (value : Toml)

/-- Opens the table of a header: it is new, or so far only implied. -/
def openTable (keys : List String) (entries : Entries) : Option Entries :=
  match keys.getLast? with
  | none => none
  | some last =>
    changeAt .header (fun _ entries =>
      match valueAt? entries last with
      | none => some (put last (.table .header []) entries)
      | some (.table .implied inner) => some (put last (.table .header inner) entries)
      | some _ => none) keys.dropLast .header entries

/-- Opens one more table under a doubled header. -/
def openElement (keys : List String) (entries : Entries) : Option Entries :=
  match keys.getLast? with
  | none => none
  | some last =>
    changeAt .header (fun _ entries =>
      match valueAt? entries last with
      | none => some (put last (.tables [[]]) entries)
      | some (.tables elements) => some (put last (.tables (elements ++ [[]])) entries)
      | some _ => none) keys.dropLast .header entries

/-- The document of some lines, where `here` is the path of the header that was last. -/
def ofLines : List Line → List String → Entries → Option Entries
  | [], _, entries => some entries
  | .header keys :: lines, _, entries => do ofLines lines keys (← openTable keys entries)
  | .doubledHeader keys :: lines, _, entries => do
    ofLines lines keys (← openElement keys entries)
  | .assignment keys value :: lines, here, entries => do
    ofLines lines here (← changeAt .header (fun _ => assign false keys value) here .header entries)

/-! ## Messages -/

/-- Numbers in a message are written in full, a whole one with a trailing zero. -/
def floatStyle : Decimal.Style := { tie := .greater, pointed := true, full := none }

/-- What is wrong with a value where something else is asked for. A number without a value is at
fault itself, whatever is asked for. -/
def mismatch (expected : Expected) : Toml → Mismatch
  | .string value => .wrongKind (.text value) expected
  | .integer value => .wrongKind (.integer value) expected
  | .float value => .wrongKind (.float (value.text floatStyle)) expected
  | .unreadable kind => .overflow kind
  | .boolean value => .wrongKind (.boolean value) expected
  | .moment => .wrongKind .map expected
  | .array _ => .wrongKind .sequence expected
  | .table _ _ => .wrongKind .map expected
  | .tables _ => .wrongKind .sequence expected

end Toml

end KeyRoute
