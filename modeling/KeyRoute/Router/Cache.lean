-- The handles of a router by address. The entries stand in the byte order of their addresses,
-- and each operation says what it does to the look-up, so nothing else has to look inside.
import KeyRoute.Member.Change
import KeyRoute.Text.Bytes

namespace KeyRoute

/-- A map from addresses to handles. -/
structure Cache (C : Type) where
  entries : List (Address × C)

namespace Cache

variable {C : Type}

def empty : Cache C := ⟨[]⟩

/-- The handle at an address. -/
def find? (cache : Cache C) (address : Address) : Option C := cache.entries.lookup address

def contains (cache : Cache C) (address : Address) : Bool := (cache.find? address).isSome

/-- How many handles there are. -/
def size (cache : Cache C) : Nat := cache.entries.length

/-- The addresses, sorted by bytes. -/
def addresses (cache : Cache C) : List Address := cache.entries.map (·.1)

/-- Puts an entry at its place, in place of one of the same address. -/
def insertEntry (address : Address) (client : C) : List (Address × C) → List (Address × C)
  | [] => [(address, client)]
  | entry :: entries =>
    if address = entry.1 then (address, client) :: entries
    else if Text.before address entry.1 then (address, client) :: entry :: entries
    else entry :: insertEntry address client entries

def insert (cache : Cache C) (address : Address) (client : C) : Cache C :=
  ⟨insertEntry address client cache.entries⟩

def erase (cache : Cache C) (address : Address) : Cache C :=
  ⟨cache.entries.filter fun entry => entry.1 != address⟩

/-! ## Look-ups -/

@[simp] theorem find?_empty (address : Address) : (empty : Cache C).find? address = none := rfl

theorem lookup_cons (address other : Address) (client : C) (entries : List (Address × C)) :
    ((address, client) :: entries).lookup other =
      if other = address then some client else entries.lookup other := by
  rw [List.lookup_cons]
  by_cases h : other = address
  · simp [h]
  · simp [h, beq_eq_false_iff_ne.mpr h]

theorem lookup_insertEntry (address other : Address) (client : C)
    (entries : List (Address × C)) :
    (insertEntry address client entries).lookup other =
      if other = address then some client else entries.lookup other := by
  induction entries with
  | nil => simp [insertEntry, lookup_cons]
  | cons entry entries ih =>
    obtain ⟨first, held⟩ := entry
    simp only [insertEntry]
    split
    · rename_i hf
      subst hf
      simp only [lookup_cons]
      split <;> rfl
    · rename_i hf
      split
      · simp only [lookup_cons]
      · simp only [lookup_cons, ih]
        by_cases h : other = first
        · simp [h, Ne.symm hf]
        · simp [h]

/-- An insertion is seen at its address and nowhere else. -/
theorem find?_insert (cache : Cache C) (address other : Address) (client : C) :
    (cache.insert address client).find? other =
      if other = address then some client else cache.find? other :=
  lookup_insertEntry address other client cache.entries

/-- An erasure is seen at its address and nowhere else. -/
theorem find?_erase (cache : Cache C) (address other : Address) :
    (cache.erase address).find? other =
      if other = address then none else cache.find? other := by
  simp only [find?, erase]
  induction cache.entries with
  | nil => simp
  | cons entry entries ih =>
    obtain ⟨first, held⟩ := entry
    by_cases hf : first = address
    · subst hf
      simp only [List.filter_cons, bne_self_eq_false, Bool.false_eq_true, if_false, ih,
        lookup_cons]
      by_cases h : other = first <;> simp [h]
    · simp only [List.filter_cons, bne_iff_ne, ne_eq, hf, not_false_eq_true, if_true,
        lookup_cons, ih]
      by_cases h : other = first
      · simp [h, hf]
      · simp [h]

/-! ## Addresses -/

theorem mem_addresses_iff {cache : Cache C} {address : Address} :
    address ∈ cache.addresses ↔ cache.contains address = true := by
  unfold addresses contains find?
  induction cache.entries with
  | nil => simp
  | cons entry entries ih =>
    obtain ⟨first, held⟩ := entry
    rw [lookup_cons]
    by_cases h : address = first
    · simp [h]
    · simp [h, ih]

theorem addresses_erase (cache : Cache C) (address : Address) :
    (cache.erase address).addresses = cache.addresses.filter (· != address) := by
  unfold addresses erase
  rw [List.filter_map]
  rfl

/-- Where nothing is, nothing is erased. -/
theorem erase_of_absent {cache : Cache C} {address : Address}
    (h : cache.contains address = false) : cache.erase address = cache := by
  have hother : ∀ entry ∈ cache.entries, (entry.1 != address) = true := by
    intro entry hentry
    rw [bne_iff_ne]
    rintro rfl
    have hcached := mem_addresses_iff.mp (List.mem_map_of_mem hentry)
    rw [h] at hcached
    cases hcached
  unfold erase
  rw [List.filter_eq_self.mpr hother]

/-! ## Order -/

/-- The addresses stand in strictly rising byte order. -/
def Sorted (cache : Cache C) : Prop :=
  cache.addresses.Pairwise fun a b => Text.before a b = true

theorem sorted_empty : (empty : Cache C).Sorted := List.Pairwise.nil

theorem mem_addresses_insertEntry {address other : Address} {client : C}
    {entries : List (Address × C)} :
    other ∈ (insertEntry address client entries).map (·.1) ↔
      other = address ∨ other ∈ entries.map (·.1) := by
  induction entries with
  | nil => simp [insertEntry]
  | cons entry entries ih =>
    simp only [insertEntry]
    split
    · rename_i h
      simp [h]
    · split
      · simp
      · simp only [List.map_cons, List.mem_cons, ih]
        exact or_left_comm

theorem sorted_insert (cache : Cache C) (address : Address) (client : C) (h : cache.Sorted) :
    (cache.insert address client).Sorted := by
  unfold Sorted addresses insert at *
  simp only at *
  generalize cache.entries = entries at h
  induction entries with
  | nil => simp [insertEntry]
  | cons entry entries ih =>
    simp only [List.map_cons, List.pairwise_cons] at h
    simp only [insertEntry]
    split
    · rename_i heq
      simpa [heq] using h
    · rename_i hne
      split
      · rename_i hb
        simp only [List.map_cons, List.pairwise_cons, List.mem_cons]
        refine ⟨?_, h⟩
        rintro other (rfl | hmem)
        · exact hb
        · exact Text.before_trans hb (h.1 other hmem)
      · rename_i hb
        simp only [List.map_cons, List.pairwise_cons]
        refine ⟨?_, ih h.2⟩
        intro other hmem
        rcases mem_addresses_insertEntry.mp hmem with rfl | hmem
        · exact (Text.before_total hne).resolve_left hb
        · exact h.1 other hmem

theorem sorted_erase (cache : Cache C) (address : Address) (h : cache.Sorted) :
    (cache.erase address).Sorted :=
  List.Pairwise.sublist (List.Sublist.map _ List.filter_sublist) h

/-- The first address of a sorted cache does not come again. -/
theorem lookup_first {address : Address} {client : C} {entries : List (Address × C)}
    (h : (⟨(address, client) :: entries⟩ : Cache C).Sorted) : entries.lookup address = none := by
  cases hlookup : entries.lookup address with
  | none => rfl
  | some other =>
    have hmem : address ∈ (⟨entries⟩ : Cache C).addresses :=
      mem_addresses_iff.mpr (congrArg Option.isSome hlookup)
    have hbefore := (List.pairwise_cons.mp h).1 address hmem
    rw [Text.before_irrefl] at hbefore
    cases hbefore

/-- Where one cache holds a handle, so does the other, if all look-ups are the same. -/
theorem mem_addresses_of_lookup {entries entries' : List (Address × C)}
    (h : ∀ address, entries.lookup address = entries'.lookup address) {address : Address}
    (hmem : address ∈ entries.map (·.1)) : address ∈ entries'.map (·.1) := by
  apply (@mem_addresses_iff C ⟨entries'⟩ address).mpr
  have hcached := (@mem_addresses_iff C ⟨entries⟩ address).mp hmem
  unfold contains find? at hcached ⊢
  rwa [← h]

theorem eq_of_lookup {entries entries' : List (Address × C)}
    (hsorted : (⟨entries⟩ : Cache C).Sorted) (hsorted' : (⟨entries'⟩ : Cache C).Sorted)
    (h : ∀ address, entries.lookup address = entries'.lookup address) : entries = entries' := by
  induction entries generalizing entries' with
  | nil =>
    cases entries' with
    | nil => rfl
    | cons first' entries' =>
      have hmem := mem_addresses_of_lookup (fun address => (h address).symm)
        (List.mem_cons_self : first'.1 ∈ (first' :: entries').map (·.1))
      cases hmem
  | cons first entries ih =>
    cases entries' with
    | nil =>
      have hmem := mem_addresses_of_lookup h
        (List.mem_cons_self : first.1 ∈ (first :: entries).map (·.1))
      cases hmem
    | cons first' entries' =>
      obtain ⟨address, client⟩ := first
      obtain ⟨address', client'⟩ := first'
      obtain ⟨hfirst, hrest⟩ := List.pairwise_cons.mp hsorted
      obtain ⟨hfirst', hrest'⟩ := List.pairwise_cons.mp hsorted'
      -- Each of the two first addresses stands in the other cache, and in its own it is the least.
      have haddress : address = address' := by
        rcases List.mem_cons.mp (mem_addresses_of_lookup h List.mem_cons_self) with heq | hlater
        · exact heq
        rcases List.mem_cons.mp (mem_addresses_of_lookup (fun address => (h address).symm)
          List.mem_cons_self) with heq | hlater'
        · exact heq.symm
        have hcircle := Text.before_trans (hfirst address' hlater') (hfirst' address hlater)
        rw [Text.before_irrefl] at hcircle
        cases hcircle
      subst haddress
      have hclient : some client = some client' := by simpa [lookup_cons] using h address
      cases hclient
      rw [ih hrest hrest']
      intro other
      by_cases hother : other = address
      · rw [hother, lookup_first hsorted, lookup_first hsorted']
      · simpa [lookup_cons, hother] using h other

/-- A sorted cache is told by its look-ups. -/
theorem eq_of_find? {a b : Cache C} (ha : a.Sorted) (hb : b.Sorted)
    (h : ∀ address, a.find? address = b.find? address) : a = b :=
  congrArg Cache.mk (eq_of_lookup ha hb h)

/-! ## Sizes -/

theorem length_insertEntry {address : Address} {client : C} {entries : List (Address × C)}
    (h : entries.lookup address = none) :
    (insertEntry address client entries).length = entries.length + 1 := by
  induction entries with
  | nil => rfl
  | cons entry entries ih =>
    obtain ⟨first, held⟩ := entry
    rw [lookup_cons] at h
    split at h
    · cases h
    · rename_i hne
      simp only [insertEntry, if_neg hne]
      split
      · rfl
      · rw [List.length_cons, ih h, List.length_cons]

/-- An insertion where nothing was makes the cache larger by one. -/
theorem size_insert {cache : Cache C} {address : Address} (h : cache.find? address = none)
    (client : C) : (cache.insert address client).size = cache.size + 1 :=
  length_insertEntry h

/-- An erasure of what was there makes the cache smaller by one. -/
theorem size_erase {cache : Cache C} {address : Address} (hsorted : cache.Sorted)
    (h : cache.contains address = true) : (cache.erase address).size + 1 = cache.size := by
  obtain ⟨entries⟩ := cache
  unfold Sorted addresses at hsorted
  unfold contains find? at h
  unfold size erase
  simp only at hsorted h ⊢
  induction entries with
  | nil => cases h
  | cons entry entries ih =>
    obtain ⟨first, held⟩ := entry
    simp only [List.map_cons, List.pairwise_cons] at hsorted
    by_cases hf : first = address
    · subst hf
      have hrest : entries.filter (fun entry => entry.1 != first) = entries := by
        apply List.filter_eq_self.mpr
        intro entry hentry
        have hbefore := hsorted.1 entry.1 (List.mem_map_of_mem hentry)
        rw [bne_iff_ne]
        rintro heq
        rw [heq, Text.before_irrefl] at hbefore
        cases hbefore
      rw [List.filter_cons_of_neg (by simp), hrest, List.length_cons]
    · rw [lookup_cons, if_neg (Ne.symm hf)] at h
      rw [List.filter_cons_of_pos (by simp [hf]), List.length_cons, List.length_cons,
        ih hsorted.2 h]

end Cache

end KeyRoute
