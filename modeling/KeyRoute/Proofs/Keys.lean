-- The keys of a document. However a table grows, by headers, by keys with dots or between braces,
-- no key comes to stand in it twice, and its entries keep the order of their keys. So at each place
-- of a document there is at most one value.
import KeyRoute.Document.Toml.Reader
import KeyRoute.Proofs.Entries

namespace KeyRoute.Toml

/-! ## Parts -/

/-- What stands somewhere in a value, be it the value itself. -/
inductive Part (part : Toml) : Toml → Prop
  | self : Part part part
  | item {items : List Toml} {item : Toml} : item ∈ items → Part part item →
      Part part (.array items)
  | entry {origin : Origin} {entries : Entries} {e : String × Toml} : e ∈ entries →
      Part part e.2 → Part part (.table origin entries)
  | element {elements : List Entries} {entries : Entries} : entries ∈ elements →
      Part part (.table .header entries) → Part part (.tables elements)

/-- Something holds of all parts of a value. -/
def Throughout (P : Toml → Prop) (value : Toml) : Prop := ∀ part, Part part value → P part

/-- Nothing stands in a value. -/
def Simple : Toml → Prop
  | .array _ | .table _ _ | .tables _ => False
  | _ => True

section

variable {P : Toml → Prop}

theorem Throughout.imp {Q : Toml → Prop} {value : Toml} (h : Throughout P value)
    (himp : ∀ v, P v → Q v) : Throughout Q value := fun part hpart => himp part (h part hpart)

theorem throughout_simple {value : Toml} (h : value.Simple) : Throughout P value ↔ P value := by
  constructor
  · exact fun hall => hall value .self
  · intro hvalue part hpart
    cases hpart with
    | self => exact hvalue
    | item | entry | element => cases h

theorem throughout_array {items : List Toml} :
    Throughout P (.array items) ↔ P (.array items) ∧ ∀ item ∈ items, Throughout P item := by
  constructor
  · exact fun h => ⟨h _ .self, fun item hitem part hpart => h part (.item hitem hpart)⟩
  · rintro ⟨hself, hitems⟩ part hpart
    cases hpart with
    | self => exact hself
    | item hitem hpart => exact hitems _ hitem part hpart

theorem throughout_table {origin : Origin} {entries : Entries} :
    Throughout P (.table origin entries) ↔
      P (.table origin entries) ∧ ∀ e ∈ entries, Throughout P e.2 := by
  constructor
  · exact fun h => ⟨h _ .self, fun e he part hpart => h part (.entry he hpart)⟩
  · rintro ⟨hself, hentries⟩ part hpart
    cases hpart with
    | self => exact hself
    | entry he hpart => exact hentries _ he part hpart

theorem throughout_tables {elements : List Entries} :
    Throughout P (.tables elements) ↔
      P (.tables elements) ∧ ∀ entries ∈ elements, Throughout P (.table .header entries) := by
  constructor
  · exact fun h => ⟨h _ .self, fun entries he part hpart => h part (.element he hpart)⟩
  · rintro ⟨hself, helements⟩ part hpart
    cases hpart with
    | self => exact hself
    | element he hpart => exact helements _ he part hpart

end

/-- In a table no key stands twice. -/
def NamedHere : Toml → Prop
  | .table _ entries => Entries.Named entries
  | _ => True

/-- In no table of a value a key stands twice. -/
abbrev KeysOnce : Toml → Prop := Throughout NamedHere

theorem KeysOnce.at_key {origin : Origin} {entries : Entries} {key : String} {v : Toml}
    (h : KeysOnce (.table origin entries)) (hv : valueAt? entries key = some v) : v.KeysOnce :=
  (throughout_table.mp h).2 _ (Entries.mem_of_valueAt? hv)

theorem KeysOnce.named {origin : Origin} {entries : Entries}
    (h : KeysOnce (.table origin entries)) : Entries.Named entries := h _ .self

/-- The entries of a table stand in the order of their keys. -/
def OrderedHere : Toml → Prop
  | .table _ entries => Ordered entries
  | _ => True

/-- All tables of a value have their entries in the order of their keys. -/
abbrev InOrder : Toml → Prop := Throughout OrderedHere

/-- The entries of a table are in order, and so are those of all tables in it. -/
structure Tidy (entries : Entries) : Prop where
  ordered : Ordered entries
  values : ∀ e ∈ entries, InOrder e.2

theorem inOrder_table {origin : Origin} {entries : Entries} :
    InOrder (.table origin entries) ↔ Tidy entries :=
  throughout_table.trans ⟨fun h => ⟨h.1, h.2⟩, fun h => ⟨h.ordered, h.values⟩⟩

theorem inOrder_array {items : List Toml} (h : ∀ item ∈ items, InOrder item) :
    InOrder (.array items) :=
  throughout_array.mpr ⟨trivial, h⟩

theorem inOrder_tables {elements : List Entries} :
    InOrder (.tables elements) ↔ ∀ entries ∈ elements, Tidy entries := by
  rw [InOrder, throughout_tables]
  constructor
  · exact fun h entries he => inOrder_table.mp (h.2 entries he)
  · exact fun h => ⟨trivial, fun entries he => inOrder_table.mpr (h entries he)⟩

theorem Simple.inOrder {value : Toml} (h : value.Simple) : value.InOrder := by
  rw [InOrder, throughout_simple h]
  cases value with
  | table => cases h
  | _ => trivial

theorem tidy_nil : Tidy [] := ⟨.nil, nofun⟩

/-! ## Growing tables -/

section

variable {entries grown : Entries} {key : String} {v : Toml}

theorem Ordered.named (h : Ordered entries) : Entries.Named entries :=
  List.pairwise_map.mpr (h.imp fun hless => Std.ne_of_lt hless)

/-- A table has no new values but the one that was put there. -/
theorem value_of_mem_put (h : Ordered entries) {e : String × Toml} (he : e ∈ put key v entries) :
    e.2 = v ∨ e ∈ entries := by
  rcases key_of_mem_put he with hkey | hold
  · have hvalue := (Entries.valueAt?_eq_some_iff (ordered_put key v h).named).mpr he
    rw [hkey, ← Entries.toml_valueAt?, valueAt?_put_self, Option.some.injEq] at hvalue
    exact .inl hvalue.symm
  · exact .inr hold

namespace Tidy

theorem put (h : Tidy entries) (hv : v.InOrder) : Tidy (put key v entries) where
  ordered := ordered_put key v h.ordered
  values e he := by
    rcases value_of_mem_put h.ordered he with rfl | hold
    · exact hv
    · exact h.values e hold

theorem at_key (h : Tidy entries) (hv : valueAt? entries key = some v) : v.InOrder :=
  h.values _ (Entries.mem_of_valueAt? hv)

/-- What is done to the table at the end of a path leaves all tables on the way in order, if it
leaves that one so. -/
theorem changeAt {walk : Walk} {change : Origin → Entries → Option Entries}
    (hchange : ∀ {origin entries grown}, change origin entries = some grown → Tidy entries →
      Tidy grown)
    {path : List String} {origin : Origin}
    (hgrown : changeAt walk change path origin entries = some grown) (h : Tidy entries) :
    Tidy grown := by
  induction path generalizing origin entries grown with
  | nil => exact hchange hgrown h
  | cons key path ih =>
    unfold Toml.changeAt at hgrown
    split at hgrown
    · obtain ⟨inner, hinner, heq⟩ := Option.bind_eq_some_iff.mp hgrown
      cases heq
      exact h.put (inOrder_table.mpr (ih hinner tidy_nil))
    · rename_i inner hvalue
      split at hgrown
      · obtain ⟨inner, hinner, heq⟩ := Option.bind_eq_some_iff.mp hgrown
        cases heq
        exact h.put (inOrder_table.mpr (ih hinner (inOrder_table.mp (h.at_key hvalue))))
      · cases hgrown
    · rename_i elements hvalue
      have helements := inOrder_tables.mp (h.at_key hvalue)
      split at hgrown
      · cases hgrown
      · rename_i last hlast
        obtain ⟨inner, hinner, heq⟩ := Option.bind_eq_some_iff.mp hgrown
        cases heq
        apply h.put
        rw [inOrder_tables]
        intro entries hentries
        rcases List.mem_append.mp hentries with hbefore | hend
        · exact helements entries (List.dropLast_subset _ hbefore)
        · rw [List.mem_singleton.mp hend]
          exact ih hinner (helements last (List.mem_of_getLast? hlast))
    · cases hgrown

theorem assign {inBraces : Bool} {keys : List String}
    (hgrown : assign inBraces keys v entries = some grown) (hv : v.InOrder) (h : Tidy entries) :
    Tidy grown := by
  unfold Toml.assign at hgrown
  split at hgrown
  · cases hgrown
  · refine changeAt ?_ hgrown h
    intro origin entries grown hgrown h
    dsimp only at hgrown
    split at hgrown
    · cases hgrown
    · cases hgrown
      exact h.put hv

theorem openTable {keys : List String} (hgrown : openTable keys entries = some grown)
    (h : Tidy entries) : Tidy grown := by
  unfold Toml.openTable at hgrown
  split at hgrown
  · cases hgrown
  · refine changeAt ?_ hgrown h
    intro origin entries grown hgrown h
    split at hgrown
    · cases hgrown
      exact h.put (inOrder_table.mpr tidy_nil)
    · rename_i inner hvalue
      cases hgrown
      exact h.put (inOrder_table.mpr (inOrder_table.mp (h.at_key hvalue)))
    · cases hgrown

theorem openElement {keys : List String} (hgrown : openElement keys entries = some grown)
    (h : Tidy entries) : Tidy grown := by
  unfold Toml.openElement at hgrown
  split at hgrown
  · cases hgrown
  · refine changeAt ?_ hgrown h
    intro origin entries grown hgrown h
    split at hgrown
    · cases hgrown
      exact h.put (inOrder_tables.mpr (by simp [tidy_nil]))
    · rename_i elements hvalue
      cases hgrown
      have helements := inOrder_tables.mp (h.at_key hvalue)
      apply h.put
      rw [inOrder_tables]
      intro entries hentries
      rcases List.mem_append.mp hentries with hbefore | hend
      · exact helements entries hbefore
      · rw [List.mem_singleton.mp hend]
        exact tidy_nil
    · cases hgrown

end Tidy

end

/-- The value of a line is in order. -/
def Line.InOrder : Line → Prop
  | .assignment _ v => v.InOrder
  | _ => True

theorem tidy_ofLines {lines : List Line} (hlines : ∀ line ∈ lines, line.InOrder)
    {here : List String} {entries grown : Entries}
    (hgrown : ofLines lines here entries = some grown) (h : Tidy entries) : Tidy grown := by
  induction lines generalizing here entries with
  | nil =>
    cases hgrown
    exact h
  | cons line lines ih =>
    obtain ⟨hline, hrest⟩ := List.forall_mem_cons.mp hlines
    cases line with
    | header keys =>
      obtain ⟨next, hnext, hgrown⟩ := Option.bind_eq_some_iff.mp hgrown
      exact ih hrest hgrown (h.openTable hnext)
    | doubledHeader keys =>
      obtain ⟨next, hnext, hgrown⟩ := Option.bind_eq_some_iff.mp hgrown
      exact ih hrest hgrown (h.openElement hnext)
    | assignment keys v =>
      obtain ⟨next, hnext, hgrown⟩ := Option.bind_eq_some_iff.mp hgrown
      exact ih hrest hgrown (h.changeAt (fun hgrown h => h.assign hgrown hline) hnext)

/-! ## Reading -/

theorem simple_float? {cs : List Char} {v : Toml} (h : float? cs = some v) : v.Simple := by
  unfold float? at h
  dsimp only at h
  split at h
  · cases h
    trivial
  split at h
  · cases h
    trivial
  split at h
  · cases h
  -- Whether there is a fraction and whether there is an exponent, the end is the same.
  obtain ⟨whole, -, h⟩ := Option.bind_eq_some_iff.mp h
  split at h
  all_goals
    obtain ⟨fraction, -, h⟩ := Option.bind_eq_some_iff.mp h
    split at h
  all_goals
    obtain ⟨power, -, h⟩ := Option.bind_eq_some_iff.mp h
    split at h <;> cases h <;> trivial

theorem simple_scalar? {cs : List Char} {v : Toml} (h : scalar? cs = some v) : v.Simple := by
  unfold scalar? at h
  split at h
  · cases h
    trivial
  split at h
  · cases h
    trivial
  split at h
  · cases h
    unfold ofInteger
    split <;> trivial
  rcases Option.or_eq_some_iff.mp h with hfloat | ⟨-, h⟩
  · exact simple_float? hfloat
  split at h
  · cases h
    trivial
  split at h <;> cases h
  trivial

theorem simple_scalar {cs rest : List Char} {v : Toml} (h : scalar cs = some (v, rest)) :
    v.Simple := by
  unfold scalar at h
  obtain ⟨v', hv, heq⟩ := Option.map_eq_some_iff.mp h
  cases heq
  exact simple_scalar? hv

/-- The values that are read with some fuel are in order, and so is what braces hold. -/
structure Reads (fuel : Nat) : Prop where
  value : ∀ {depth cs v rest}, value fuel depth cs = some (v, rest) → v.InOrder
  items : ∀ {depth cs vs rest}, items fuel depth cs = some (vs, rest) → ∀ v ∈ vs, v.InOrder
  pairs : ∀ {depth entries cs grown rest}, pairs fuel depth entries cs = some (grown, rest) →
    Tidy entries → Tidy grown

theorem reads (fuel : Nat) : Reads fuel := by
  induction fuel with
  | zero => exact ⟨nofun, nofun, nofun⟩
  | succ fuel ih =>
    constructor
    · intro depth cs v rest h
      unfold Toml.value at h
      split at h
      · cases h
      · cases h
      · obtain ⟨start, -, h⟩ := Option.bind_eq_some_iff.mp h
        obtain ⟨⟨vs, rest⟩, hvs, h⟩ := Option.bind_eq_some_iff.mp h
        cases h
        exact inOrder_array (ih.items hvs)
      · obtain ⟨start, -, h⟩ := Option.bind_eq_some_iff.mp h
        obtain ⟨⟨grown, rest⟩, hgrown, h⟩ := Option.bind_eq_some_iff.mp h
        cases h
        exact inOrder_table.mpr (ih.pairs hgrown tidy_nil)
      · split at h
        · cases h
          exact Simple.inOrder trivial
        · exact (simple_scalar h).inOrder
    · intro depth cs vs rest h
      unfold Toml.items at h
      split at h
      · cases h
        nofun
      · obtain ⟨⟨v, cs⟩, hv, h⟩ := Option.bind_eq_some_iff.mp h
        obtain ⟨cs, -, h⟩ := Option.bind_eq_some_iff.mp h
        split at h
        · obtain ⟨cs, -, h⟩ := Option.bind_eq_some_iff.mp h
          obtain ⟨⟨vs, cs⟩, hvs, h⟩ := Option.bind_eq_some_iff.mp h
          cases h
          exact List.forall_mem_cons.mpr ⟨ih.value hv, ih.items hvs⟩
        · cases h
          exact List.forall_mem_singleton.mpr (ih.value hv)
        · cases h
    · intro depth entries cs grown rest h htidy
      unfold Toml.pairs at h
      split at h
      · cases h
        exact htidy
      · obtain ⟨⟨keys, cs⟩, -, h⟩ := Option.bind_eq_some_iff.mp h
        obtain ⟨cs, -, h⟩ := Option.bind_eq_some_iff.mp h
        obtain ⟨cs, -, h⟩ := Option.bind_eq_some_iff.mp h
        obtain ⟨cs, -, h⟩ := Option.bind_eq_some_iff.mp h
        obtain ⟨⟨v, cs⟩, hv, h⟩ := Option.bind_eq_some_iff.mp h
        obtain ⟨next, hnext, h⟩ := Option.bind_eq_some_iff.mp h
        have hnext' := htidy.assign hnext (ih.value hv)
        obtain ⟨cs, -, h⟩ := Option.bind_eq_some_iff.mp h
        split at h
        · obtain ⟨cs, -, h⟩ := Option.bind_eq_some_iff.mp h
          exact ih.pairs h hnext'
        · cases h
          exact hnext'
        · cases h

theorem inOrder_assignmentLine {cs rest : List Char} {line : Line}
    (h : assignmentLine cs = some (line, rest)) : line.InOrder := by
  obtain ⟨⟨keys, cs⟩, -, h⟩ := Option.bind_eq_some_iff.mp h
  obtain ⟨cs, -, h⟩ := Option.bind_eq_some_iff.mp h
  obtain ⟨⟨v, cs⟩, hv, h⟩ := Option.bind_eq_some_iff.mp h
  cases h
  exact (reads _).value hv

theorem inOrder_headerLine {cs rest : List Char} {line : Line}
    (h : headerLine cs = some (line, rest)) : line.InOrder := by
  unfold headerLine at h
  split at h
  · obtain ⟨⟨keys, cs⟩, -, h⟩ := Option.bind_eq_some_iff.mp h
    obtain ⟨cs, -, h⟩ := Option.bind_eq_some_iff.mp h
    obtain ⟨cs, -, h⟩ := Option.bind_eq_some_iff.mp h
    cases h
    trivial
  · obtain ⟨⟨keys, cs⟩, -, h⟩ := Option.bind_eq_some_iff.mp h
    obtain ⟨cs, -, h⟩ := Option.bind_eq_some_iff.mp h
    cases h
    trivial

theorem inOrder_lines {fuel : Nat} {cs : List Char} {ls : List Line}
    (h : lines fuel cs = some ls) : ∀ line ∈ ls, line.InOrder := by
  induction fuel generalizing cs ls with
  | zero => cases h
  | succ fuel ih =>
    unfold lines at h
    split at h
    · cases h
      nofun
    · obtain ⟨⟨line, cs⟩, hline, h⟩ := Option.bind_eq_some_iff.mp h
      obtain ⟨cs, -, h⟩ := Option.bind_eq_some_iff.mp h
      obtain ⟨rest, hrest, h⟩ := Option.bind_eq_some_iff.mp h
      cases h
      exact List.forall_mem_cons.mpr ⟨inOrder_headerLine hline, ih hrest⟩
    · split at h
      · exact ih h
      · obtain ⟨⟨line, cs⟩, hline, h⟩ := Option.bind_eq_some_iff.mp h
        obtain ⟨cs, -, h⟩ := Option.bind_eq_some_iff.mp h
        obtain ⟨rest, hrest, h⟩ := Option.bind_eq_some_iff.mp h
        cases h
        exact List.forall_mem_cons.mpr ⟨inOrder_assignmentLine hline, ih hrest⟩

/-- In a document the entries of each table are in order. -/
theorem tidy_of_parse? {text : String} {entries : Entries} (h : parse? text = some entries) :
    Tidy entries := by
  obtain ⟨ls, hls, h⟩ := Option.bind_eq_some_iff.mp h
  exact tidy_ofLines (inOrder_lines hls) h tidy_nil

/-- In a document no key stands twice in a table. -/
theorem keysOnce_of_parse? {text : String} {entries : Entries} (h : parse? text = some entries) :
    KeysOnce (.table .header entries) := by
  have hordered : InOrder (.table .header entries) := inOrder_table.mpr (tidy_of_parse? h)
  refine hordered.imp fun v hv => ?_
  cases v with
  | table => exact Ordered.named hv
  | _ => trivial

end KeyRoute.Toml
