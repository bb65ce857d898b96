-- Entries with keys, as objects and tables have them. Where no key stands twice, the value at a key
-- is the one that stands with it; so neither the order of the entries nor the other keys matter for
-- it.
import Mathlib.Data.List.Nodup
import KeyRoute.Document.Toml.Basic

namespace KeyRoute.Entries

variable {β : Type} {entries other : List (String × β)} {key : String} {value : β}

/-- The value at a key, in documents of either format. -/
def valueAt? (entries : List (String × β)) (key : String) : Option β :=
  (entries.find? fun e => e.1 == key).map (·.2)

theorem toml_valueAt? : Toml.valueAt? = valueAt? := rfl

/-- No key stands twice. -/
def Named (entries : List (String × β)) : Prop := (entries.map (·.1)).Nodup

theorem valueAt?_cons (e : String × β) (entries : List (String × β)) (key : String) :
    valueAt? (e :: entries) key = if e.1 = key then some e.2 else valueAt? entries key := by
  unfold valueAt?
  rw [List.find?_cons]
  by_cases h : e.1 = key
  · simp [h]
  · simp [h, beq_eq_false_iff_ne.mpr h]

theorem mem_of_valueAt? (h : valueAt? entries key = some value) : (key, value) ∈ entries := by
  induction entries with
  | nil => cases h
  | cons e entries ih =>
    rw [valueAt?_cons] at h
    split at h
    · rename_i hkey
      cases h
      rw [← hkey]
      exact List.mem_cons_self
    · exact List.mem_cons_of_mem e (ih h)

theorem valueAt?_eq_none (h : ∀ e ∈ entries, e.1 ≠ key) : valueAt? entries key = none := by
  cases hvalue : valueAt? entries key with
  | none => rfl
  | some value => exact absurd rfl (h _ (mem_of_valueAt? hvalue))

/-- The value at a key is the one that stands with it. -/
theorem valueAt?_eq_some_iff (hnamed : Named entries) :
    valueAt? entries key = some value ↔ (key, value) ∈ entries := by
  refine ⟨mem_of_valueAt?, fun hmem => ?_⟩
  induction entries with
  | nil => cases hmem
  | cons e entries ih =>
    obtain ⟨hfirst, hrest⟩ := List.nodup_cons.mp hnamed
    rw [valueAt?_cons]
    rcases List.mem_cons.mp hmem with rfl | hmem
    · exact if_pos rfl
    · rw [if_neg, ih hrest hmem]
      intro hkey
      exact hfirst (List.mem_map.mpr ⟨(key, value), hmem, hkey.symm⟩)

/-- Entries in another order and with others between them have the same value at each key that
none of the others has. -/
theorem valueAt?_of_perm {extra : List (String × β)} (hnamed : Named other)
    (hperm : other.Perm (entries ++ extra)) (hkey : ∀ e ∈ extra, e.1 ≠ key) :
    valueAt? other key = valueAt? entries key := by
  have hboth : Named (entries ++ extra) := (hperm.map Prod.fst).nodup_iff.mp hnamed
  have hold : Named entries := by
    unfold Named at hboth ⊢
    rw [List.map_append] at hboth
    exact hboth.of_append_left
  apply Option.ext
  intro value
  rw [valueAt?_eq_some_iff hnamed, valueAt?_eq_some_iff hold, hperm.mem_iff, List.mem_append]
  constructor
  · rintro (h | h)
    · exact h
    · exact absurd rfl (hkey _ h)
  · exact Or.inl

end KeyRoute.Entries
