-- The spellings of a status. It has two readers, one for texts and one for documents, and each goes
-- by a table of its own. They know the same words, and the reader for texts takes them in any case:
-- it reads a text as the other reads it in lower case. What is written for a status suits both.
import KeyRoute.Member.Status
import KeyRoute.Text.Blank

namespace KeyRoute.Status

/-- A text with its ASCII letters in lower case, and all else as it is. -/
def lower (s : String) : String := String.ofList (s.toList.map Char.toLower)

/-! ## The words -/

/-- Both readers know the same words. -/
theorem ofName_eq_ok_iff {word : String} {status : Status} :
    ofName word = .ok status ↔ (word, status) ∈ spellings := by
  constructor
  · intro h
    unfold ofName at h
    split at h <;> simp_all [spellings]
  · intro h
    simp only [spellings, List.mem_cons, List.not_mem_nil, or_false, Prod.mk.injEq] at h
    rcases h with ⟨rfl, rfl⟩ | ⟨rfl, rfl⟩ | ⟨rfl, rfl⟩ | ⟨rfl, rfl⟩ | ⟨rfl, rfl⟩ <;> rfl

/-- The words consist of small letters. -/
theorem isLower_of_mem {word : String} {status : Status} (h : (word, status) ∈ spellings) :
    ∀ c ∈ word.toList, c.isLower = true := by
  have hall : (spellings.all fun spelling => spelling.1.toList.all Char.isLower) = true := by
    decide +kernel
  exact List.all_eq_true.mp (List.all_eq_true.mp hall (word, status) h)

theorem lower_of_mem {word : String} {status : Status} (h : (word, status) ∈ spellings) :
    lower word = word := by
  have hall : ∀ spelling ∈ spellings, lower spelling.1 = spelling.1 := by decide +kernel
  exact hall (word, status) h

/-- A word has one meaning. -/
theorem spellings_unique {word : String} {status other : Status}
    (h : (word, status) ∈ spellings) (h' : (word, other) ∈ spellings) : status = other := by
  rw [← ofName_eq_ok_iff] at h h'
  rw [h] at h'
  cases h'
  rfl

/-! ## The reader for texts -/

theorem sameLetters_iff {a b : String} : sameLetters a b = true ↔ lower a = lower b := by
  unfold sameLetters lower
  rw [beq_iff_eq, String.ofList_inj]

/-- A text is read as the word that it is in lower case. -/
theorem parse?_eq_some_iff {s : String} {status : Status} :
    parse? s = some status ↔ (lower s, status) ∈ spellings := by
  have hword : ∀ spelling ∈ spellings, sameLetters s spelling.1 = true ↔ lower s = spelling.1 := by
    rintro ⟨word, meaning⟩ hmem
    rw [sameLetters_iff, lower_of_mem hmem]
  unfold parse?
  cases hfind : spellings.find? fun spelling => sameLetters s spelling.1 with
  | none =>
    simp only [Option.map_none, reduceCtorEq, false_iff]
    intro hmem
    exact List.find?_eq_none.mp hfind _ hmem ((hword _ hmem).mpr rfl)
  | some spelling =>
    obtain ⟨word, meaning⟩ := spelling
    have hmem := List.mem_of_find?_eq_some hfind
    have hsame : sameLetters s word = true := by
      have := List.find?_some hfind
      exact this
    rw [(hword _ hmem).mp hsame, Option.map_some, Option.some.injEq]
    constructor
    · rintro rfl
      exact hmem
    · exact spellings_unique hmem

/-- Only a letter of ASCII has a small letter of ASCII as its lower case. -/
theorem isAlpha_of_toLower {c : Char} (h : c.toLower.isLower = true) : c.isAlpha = true := by
  change (c.isUpper || c.isLower) = true
  cases hupper : c.isUpper with
  | true => rfl
  | false =>
    have hsame : c.toLower = c := by
      unfold Char.toLower
      exact dif_neg (of_decide_eq_false hupper)
    rw [← hsame, h]
    rfl

/-- A text that is read consists of letters of ASCII. -/
theorem isAlpha_of_parse? {s : String} {status : Status} (h : parse? s = some status) {c : Char}
    (hc : c ∈ s.toList) : c.isAlpha = true := by
  have hlower : c.toLower ∈ (lower s).toList := by
    rw [lower, String.toList_ofList]
    exact List.mem_map_of_mem hc
  exact isAlpha_of_toLower (isLower_of_mem (parse?_eq_some_iff.mp h) _ hlower)

theorem toNat_of_isAlpha {c : Char} (h : c.isAlpha = true) : 65 ≤ c.toNat ∧ c.toNat ≤ 122 := by
  change (c.isUpper || c.isLower) = true at h
  rcases Bool.or_eq_true_iff.mp h with hupper | hlower
  · have hbounds : 65 ≤ c.toNat ∧ c.toNat ≤ 90 := of_decide_eq_true hupper
    omega
  · change (decide (97 ≤ c.toNat) && decide (c.toNat ≤ 122)) = true at hlower
    simp only [Bool.and_eq_true, decide_eq_true_eq] at hlower
    omega

theorem isBlank_of_isAlpha {c : Char} (h : c.isAlpha = true) : Text.isBlank c = false := by
  have := toNat_of_isAlpha h
  unfold Text.isBlank
  simp only [Bool.or_eq_false_iff, Bool.and_eq_false_iff, decide_eq_false_iff_not,
    beq_eq_false_iff_ne]
  omega

/-! ## The law -/

/-- A text is read iff a document may hold it in lower case, and then it is the same status. So
whatever names a status in a document names it as a text, and the case of ASCII letters does not
matter there. Nothing else is forgiven: a text with a blank in it, at its ends or elsewhere, is not
read, and neither is one with a character that is not ASCII, whatever its lower case is. The name of
a status that was read is what a document shows of it, and both readers take it for that status. -/
theorem both_readers_know_the_same_words (s : String) :
    (∀ status, parse? s = some status ↔ ofJson (.str (lower s)) = .ok status) ∧
    (∀ status, ofJson (.str s) = .ok status → parse? s = some status) ∧
    (∀ t, lower t = lower s → parse? t = parse? s) ∧
    (∀ c ∈ s.toList, Text.isBlank c = true ∨ 128 ≤ c.toNat → parse? s = none) ∧
    ∀ status, parse? s = some status →
      status.toJson = .str status.name ∧ parse? status.name = some status ∧
      ofJson status.toJson = .ok status := by
  have hjson (word : String) (status : Status) :
      ofJson (.str word) = .ok status ↔ (word, status) ∈ spellings := ofName_eq_ok_iff
  refine ⟨fun status => ?_, fun status h => ?_, fun t h => ?_, fun c hc hstrange => ?_,
    fun status _ => ⟨congrArg Json.str (documentName_eq_name status), parse?_name status,
      ofJson_toJson status⟩⟩
  · rw [parse?_eq_some_iff, hjson]
  · have hmem := (hjson s status).mp h
    rw [parse?_eq_some_iff, lower_of_mem hmem]
    exact hmem
  · apply Option.ext
    intro status
    rw [parse?_eq_some_iff, parse?_eq_some_iff, h]
  · rw [Option.eq_none_iff_forall_ne_some]
    intro status h
    have halpha := isAlpha_of_parse? h hc
    rcases hstrange with hblank | hwide
    · rw [isBlank_of_isAlpha halpha] at hblank
      cases hblank
    · have := toNat_of_isAlpha halpha
      omega

/-- The alias in capitals; a word with a long s, which other rules for the case of letters take for
an s; and a word with a blank behind it. -/
theorem left_is_leave_in_any_case :
    ofJson (.str (lower "LEFT")) = .ok .leave ∧ parse? "LEFT" = some .leave ∧
    parse? "leave" = some .leave ∧ ofJson (Status.toJson .leave) = .ok .leave ∧
    parse? "lEfT" = parse? "LEFT" ∧ parse? "ſuspect" = none ∧ parse? "faulty " = none := by
  have hdocument : ofJson (.str (lower "LEFT")) = .ok .leave := by
    rw [show lower "LEFT" = "left" by decide +kernel]
    rfl
  obtain ⟨hagree, -, hcase, -, hname⟩ := both_readers_know_the_same_words "LEFT"
  have hread := (hagree .leave).mpr hdocument
  obtain ⟨-, htext, hwritten⟩ := hname .leave hread
  have hlong := (both_readers_know_the_same_words "ſuspect").2.2.2.1 'ſ' (by decide +kernel)
  have hspace := (both_readers_know_the_same_words "faulty ").2.2.2.1 ' ' (by decide +kernel)
  exact ⟨hdocument, hread, htext, hwritten, hcase "lEfT" (by decide +kernel),
    hlong (Or.inr (by decide)), hspace (Or.inl (by decide))⟩

end KeyRoute.Status
