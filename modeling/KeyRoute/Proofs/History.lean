-- What the visits to a cache tell of it. A history leads from one cache to another if each visit
-- found what the visits before it had left. From this alone follows what a history says of an
-- address: builds and removals take turns there, and what is cached at the end was built by the
-- first call that came for it since the last removal.
import Mathlib.Data.List.DropRight
import KeyRoute.Proofs.Steps
import KeyRoute.Router.Program

namespace KeyRoute

deriving instance DecidableEq for Answer

variable {W T C A α β : Type}

/-! ## Visits -/

namespace Visit

/-- Whether a visit can have come of a cache, going by what stands there. -/
def Fits (cache : Cache C) : Visit C → Prop
  | .found _ address client => cache.find? address = some client
  | .missed address | .built address _ | .failed address _ => cache.find? address = none
  | .removed address there => cache.contains address = there

/-- The cache after a visit. -/
def apply (cache : Cache C) : Visit C → Cache C
  | .built address client => cache.insert address client
  | .removed address true => cache.erase address
  | _ => cache

/-- A handle was built for the address and cached. -/
def isBuild (address : Address) : Visit C → Bool
  | .built a _ => a == address
  | _ => false

/-- A removal at the address found a handle. -/
def isRemoval (address : Address) : Visit C → Bool
  | .removed a true => a == address
  | _ => false

/-- A handle was built, wherever it was. -/
def fills : Visit C → Bool
  | .built _ _ => true
  | _ => false

/-- A removal found a handle, wherever it was. -/
def empties : Visit C → Bool
  | .removed _ true => true
  | _ => false

/-- The address was to be removed, whether a handle was there or not. -/
def asksRemoval (address : Address) : Visit C → Bool
  | .removed a _ => a == address
  | _ => false

/-- The handle that a call for the address came away with. -/
def served? (address : Address) : Visit C → Option C
  | .found _ a client | .built a client => if a = address then some client else none
  | _ => none

/-- The address that was to be removed. -/
def asked? : Visit C → Option Address
  | .removed a _ => some a
  | _ => none

/-- The handle that was built, if any, wherever it was. -/
def built? : Visit C → Option C
  | .built _ client => some client
  | _ => none

theorem eq_removed {address : Address} {v : Visit C} (h : v.isRemoval address = true) :
    v = .removed address true := by
  cases v with
  | removed a there =>
    cases there <;> simp [isRemoval] at h
    rw [h]
  | _ => simp [isRemoval] at h

theorem asksRemoval_of_isRemoval {address : Address} {v : Visit C}
    (h : v.isRemoval address = true) : v.asksRemoval address = true := by
  rw [eq_removed h]
  simp [asksRemoval]

/-- What a visit can be for an address: a build where nothing was, a removal of what was there, or
something that leaves the address alone and says the truth about it. -/
theorem cases_at (address : Address) {cache : Cache C} {v : Visit C} (h : v.Fits cache) :
    (∃ client, v = .built address client ∧ cache.find? address = none ∧
      (v.apply cache).find? address = some client) ∨
    (v = .removed address true ∧ (cache.find? address).isSome ∧
      (v.apply cache).find? address = none) ∨
    (v.isBuild address = false ∧ v.isRemoval address = false ∧
      (v.apply cache).find? address = cache.find? address ∧
      (∀ client, v.served? address = some client → cache.find? address = some client) ∧
      (v.asksRemoval address = true → cache.find? address = none)) := by
  cases v with
  | found path a client =>
    refine Or.inr (Or.inr ⟨rfl, rfl, rfl, ?_, by simp [asksRemoval]⟩)
    intro client' hs
    simp only [served?] at hs
    split at hs
    · rename_i ha
      subst ha
      rw [← hs]
      exact h
    · cases hs
  | missed a => exact Or.inr (Or.inr ⟨rfl, rfl, rfl, by simp [served?], by simp [asksRemoval]⟩)
  | failed a e => exact Or.inr (Or.inr ⟨rfl, rfl, rfl, by simp [served?], by simp [asksRemoval]⟩)
  | built a client =>
    by_cases ha : address = a
    · subst ha
      exact Or.inl ⟨client, rfl, h, by simp [apply, Cache.find?_insert]⟩
    · refine Or.inr (Or.inr ⟨by simp [isBuild, Ne.symm ha], rfl, ?_, ?_, by simp [asksRemoval]⟩)
      · simp [apply, Cache.find?_insert, ha]
      · simp [served?, Ne.symm ha]
  | removed a there =>
    by_cases ha : address = a
    · subst ha
      cases there with
      | true =>
        exact Or.inr (Or.inl ⟨rfl, h, by simp [apply, Cache.find?_erase]⟩)
      | false =>
        refine Or.inr (Or.inr ⟨rfl, rfl, rfl, by simp [served?], fun _ => ?_⟩)
        simpa [Fits, Cache.contains] using h
    · refine Or.inr (Or.inr ⟨rfl, ?_, ?_, by simp [served?], ?_⟩)
      · cases there <;> simp [isRemoval, Ne.symm ha]
      · cases there <;> simp [apply, Cache.find?_erase, ha]
      · simp [asksRemoval, Ne.symm ha]

/-- After a visit that served an address, the handle is cached there. -/
theorem find?_apply_of_served {address : Address} {client : C} {cache : Cache C} {v : Visit C}
    (h : v.Fits cache) (hs : v.served? address = some client) :
    (v.apply cache).find? address = some client := by
  rcases cases_at address h with ⟨c, rfl, -, hc⟩ | ⟨rfl, -, -⟩ | ⟨-, -, hsame, hserved, -⟩
  · simp [served?] at hs
    rw [hc, hs]
  · simp [served?] at hs
  · rw [hsame]
    exact hserved client hs

end Visit

/-! ## Histories -/

/-- Each visit found what the visits before it left, from one cache to another. -/
inductive Leads : Cache C → List (Visit C) → Cache C → Prop
  | nil (cache : Cache C) : Leads cache [] cache
  | cons {cache last : Cache C} {v : Visit C} {past : List (Visit C)} :
      v.Fits cache → Leads (v.apply cache) past last → Leads cache (v :: past) last

namespace Leads

variable {first mid last : Cache C} {past more : List (Visit C)} {address : Address} {client : C}

theorem single {v : Visit C} (h : v.Fits first) : Leads first [v] (v.apply first) :=
  cons h (nil _)

theorem append (h : Leads first past mid) (h' : Leads mid more last) :
    Leads first (past ++ more) last := by
  induction h with
  | nil => exact h'
  | cons hv _ ih => exact cons hv (ih h')

/-- The visits tell what the cache became. -/
theorem last_unique {last' : Cache C} (h : Leads first past last) (h' : Leads first past last') :
    last = last' := by
  induction h with
  | nil =>
    cases h'
    rfl
  | cons _ _ ih =>
    cases h' with
    | cons _ hrest => exact ih hrest

theorem split (h : Leads first (past ++ more) last) :
    ∃ mid, Leads first past mid ∧ Leads mid more last := by
  induction past generalizing first with
  | nil => exact ⟨first, nil first, h⟩
  | cons v past ih =>
    cases h with
    | cons hv h =>
      obtain ⟨mid, h1, h2⟩ := ih h
      exact ⟨mid, cons hv h1, h2⟩

/-! ### Builds and removals -/

/-- How many handles were built for an address. -/
def builds (address : Address) (past : List (Visit C)) : Nat := past.countP (·.isBuild address)

/-- How many removals found a handle at an address. -/
def removals (address : Address) (past : List (Visit C)) : Nat := past.countP (·.isRemoval address)

/-- The builds and the removals that found something at an address, in order. -/
def turns (address : Address) (past : List (Visit C)) : List (Visit C) :=
  past.filter fun v => v.isBuild address || v.isRemoval address

/-- Builds and removals by turns; which one comes first depends on whether a handle is there. -/
def Alternate (address : Address) : Bool → List (Visit C) → Prop
  | _, [] => True
  | there, v :: past => v.isRemoval address = there ∧ v.isBuild address = !there ∧
      Alternate address (!there) past

theorem builds_balance_removals (address : Address) (h : Leads first past last) :
    builds address past + (if first.contains address then 1 else 0) =
      removals address past + (if last.contains address then 1 else 0) := by
  induction h with
  | nil => simp [builds, removals]
  | cons hv _ ih =>
    unfold builds removals at *
    rw [List.countP_cons, List.countP_cons]
    rcases Visit.cases_at address hv with ⟨c, rfl, h0, h1⟩ | ⟨rfl, h0, h1⟩ | ⟨hb, hr, h1, -⟩
    · simp only [Cache.contains, h0, h1] at ih ⊢
      simp [Visit.isBuild, Visit.isRemoval] at ih ⊢
      omega
    · simp only [Cache.contains, h0, h1] at ih ⊢
      simp [Visit.isBuild, Visit.isRemoval] at ih ⊢
      omega
    · have hc : ∀ cache' : Cache C, cache'.contains address = (cache'.find? address).isSome :=
        fun _ => rfl
      rw [hc, h1, ← hc] at ih
      simpa [hb, hr] using ih

theorem alternate (address : Address) (h : Leads first past last) :
    Alternate address (first.contains address) (turns address past) := by
  induction h with
  | nil => trivial
  | cons hv _ ih =>
    unfold turns at *
    rcases Visit.cases_at address hv with ⟨c, rfl, h0, h1⟩ | ⟨rfl, h0, h1⟩ | ⟨hb, hr, h1, -⟩
    · rw [List.filter_cons_of_pos (by simp [Visit.isBuild])]
      simp only [Cache.contains, h0, h1] at ih ⊢
      exact ⟨rfl, by simp [Visit.isBuild], ih⟩
    · rw [List.filter_cons_of_pos (by simp [Visit.isRemoval])]
      simp only [Cache.contains, h0, h1] at ih ⊢
      exact ⟨by simp [Visit.isRemoval], rfl, ih⟩
    · rw [List.filter_cons_of_neg (by simp [hb, hr])]
      simp only [Cache.contains, h1] at ih
      exact ih

/-- The cache stays sorted, and its size tells of all builds and removals. -/
theorem size (h : Leads first past last) (hsorted : first.Sorted) :
    last.Sorted ∧ last.size + past.countP Visit.empties = first.size + past.countP Visit.fills := by
  induction h with
  | nil => exact ⟨hsorted, rfl⟩
  | @cons cache last v past hv _ ih =>
    have hstep : (v.apply cache).Sorted ∧ (v.apply cache).size + (if v.empties then 1 else 0) =
        cache.size + (if v.fills then 1 else 0) := by
      cases v with
      | built a client =>
        exact ⟨Cache.sorted_insert cache a client hsorted, Cache.size_insert hv client⟩
      | removed a there =>
        cases there with
        | true => exact ⟨Cache.sorted_erase cache a hsorted, Cache.size_erase hsorted hv⟩
        | false => exact ⟨hsorted, rfl⟩
      | found | missed | failed => exact ⟨hsorted, rfl⟩
    obtain ⟨hlast, hsize⟩ := ih hstep.1
    rw [List.countP_cons, List.countP_cons]
    exact ⟨hlast, by omega⟩

/-! ### Without a removal -/

/-- A cached handle stays until it is removed; until then it serves all calls, and no other is
built. -/
theorem stays (h : Leads first past last) (hfirst : first.find? address = some client)
    (hkept : ∀ v ∈ past, v.isRemoval address = false) :
    last.find? address = some client ∧
      (∀ v ∈ past, ∀ c, v.served? address = some c → c = client) ∧
      builds address past = 0 := by
  induction h with
  | nil => exact ⟨hfirst, by simp, rfl⟩
  | @cons cache last v past hv _ ih =>
    have hnot := hkept v List.mem_cons_self
    rcases Visit.cases_at address hv with ⟨c, rfl, h0, -⟩ | ⟨rfl, -, -⟩ | ⟨hb, -, h1, hs, -⟩
    · rw [h0] at hfirst
      cases hfirst
    · simp [Visit.isRemoval] at hnot
    · obtain ⟨hlast, hserved, hbuilds⟩ :=
        ih (h1.trans hfirst) fun w hw => hkept w (List.mem_cons_of_mem v hw)
      refine ⟨hlast, ?_, ?_⟩
      · intro w hw c hc
        rcases List.mem_cons.mp hw with rfl | hw
        · have := hs c hc
          rw [hfirst] at this
          exact (Option.some.inj this).symm
        · exact hserved w hw c hc
      · unfold builds at *
        rw [List.countP_cons_of_neg (by simp [hb]), hbuilds]

/-- From an empty place and without removals: either no call was served, or the first one that was
built the handle that all of them got and that is cached at the end. -/
theorem first_build (h : Leads first past last) (hfirst : first.find? address = none)
    (hkept : ∀ v ∈ past, v.isRemoval address = false) :
    (last.find? address = none ∧ ∀ v ∈ past, v.served? address = none) ∨
    ∃ client, last.find? address = some client ∧
      past.find? (fun v => (v.served? address).isSome) = some (.built address client) ∧
      (∀ v ∈ past, ∀ c, v.served? address = some c → c = client) ∧
      builds address past = 1 := by
  induction h with
  | nil => exact Or.inl ⟨hfirst, by simp⟩
  | @cons cache last v past hv hrest ih =>
    have hnot := hkept v List.mem_cons_self
    have hkept' : ∀ w ∈ past, w.isRemoval address = false :=
      fun w hw => hkept w (List.mem_cons_of_mem v hw)
    rcases Visit.cases_at address hv with ⟨client, rfl, -, h1⟩ | ⟨rfl, -, -⟩ | ⟨hb, -, h1, hs, -⟩
    · obtain ⟨hlast, hserved, hbuilds⟩ := stays hrest h1 hkept'
      refine Or.inr ⟨client, hlast, by simp [Visit.served?], ?_, ?_⟩
      · intro w hw c hc
        rcases List.mem_cons.mp hw with rfl | hw
        · simp only [Visit.served?, if_true, Option.some.injEq] at hc
          exact hc.symm
        · exact hserved w hw c hc
      · unfold builds at *
        rw [List.countP_cons_of_pos (by simp [Visit.isBuild]), hbuilds]
    · simp [Visit.isRemoval] at hnot
    · have hv0 : v.served? address = none := by
        cases hv0 : v.served? address with
        | none => rfl
        | some c =>
          have := hs c hv0
          rw [hfirst] at this
          cases this
      rcases ih (h1.trans hfirst) hkept' with ⟨hlast, hnone⟩ | ⟨client, hlast, hfind, hserved, hone⟩
      · refine Or.inl ⟨hlast, ?_⟩
        intro w hw
        rcases List.mem_cons.mp hw with rfl | hw
        · exact hv0
        · exact hnone w hw
      · refine Or.inr ⟨client, hlast, ?_, ?_, ?_⟩
        · rw [List.find?_cons_of_neg (by simp [hv0]), hfind]
        · intro w hw c hc
          rcases List.mem_cons.mp hw with rfl | hw
          · rw [hv0] at hc
            cases hc
          · exact hserved w hw c hc
        · unfold builds at *
          rw [List.countP_cons_of_neg (by simp [hb]), hone]

end Leads

/-! ## Actions -/

/-- The visits of an action lead from the cache before it to the cache after it. -/
def Act.Faithful {S : Type} (view : S → Cache C) (action : Act S T C A α) : Prop :=
  ∀ s, Leads (view s) (action s).trace.visits (view (action s).state)

namespace Act

variable {S : Type} {view : S → Cache C}

/-- An action that does not touch the cache. -/
theorem faithful_quiet {action : Act S T C A α}
    (hcache : ∀ s, view (action s).state = view s) (hvisits : ∀ s, (action s).trace.visits = []) :
    action.Faithful view := by
  intro s
  rw [hcache, hvisits]
  exact .nil _

/-- A cache that is sorted stays so. -/
theorem sorted_of_faithful {action : Act S T C A α} (h : action.Faithful view) {s : S}
    (hsorted : (view s).Sorted) : (view (action s).state).Sorted :=
  ((h s).size hsorted).1

theorem faithful_pure (answer : α) : (pure answer : Act S T C A α).Faithful view :=
  faithful_quiet (fun _ => rfl) fun _ => rfl

theorem faithful_bind {first : Act S T C A α} {next : α → Act S T C A β}
    (h : first.Faithful view) (h' : ∀ a, (next a).Faithful view) :
    (first >>= next).Faithful view :=
  fun s => (h s).append (h' (first s).answer (first s).state)

theorem faithful_note (notices : List Notice) :
    (note notices : Act S T C A Unit).Faithful view :=
  faithful_quiet (fun _ => rfl) fun _ => rfl

theorem faithful_record (call : Call T A) : (record call : Act S T C A Unit).Faithful view :=
  faithful_quiet (fun _ => rfl) fun _ => rfl

theorem faithful_look (f : S → α) : (look f : Act S T C A α).Faithful view :=
  faithful_quiet (fun _ => rfl) fun _ => rfl

end Act

namespace Router

variable {N : Type} (router : Router) (parties : Collaborators W T C)

/-- The actions of a router whose visits tell what became of its cache. -/
abbrev Tells (action : Act (State W C) T C A α) : Prop := action.Faithful State.cache

theorem tells_resolve (key : String) {during : Act (State W C) T C A Unit} (h : Tells during) :
    Tells (router.resolve parties key during) := by
  intro s
  cases hl : (parties.lookup key (during s).state.world).1 with
  | ok owner =>
    rw [resolve_ok router parties hl]
    exact h s
  | error e =>
    rw [resolve_error router parties hl]
    simpa using h s

theorem tells_read (owner : Address) :
    Tells (read owner : Act (State W C) T C A (Option (Entry C))) := by
  intro s
  cases hc : s.cache.find? owner with
  | some client =>
    rw [read_some hc]
    exact .single (v := .found .fast owner client) hc
  | none =>
    rw [read_none hc]
    exact .single (v := .missed owner) hc

theorem tells_enter (owner : Address) :
    Tells (router.enter parties owner : Act (State W C) T C A _) := by
  intro s
  have hb := router.building (A := A) parties owner s
  cases hc : s.cache.find? owner with
  | some client =>
    rw [enter_some router parties hc]
    exact .single (v := .found .recheck owner client) hc
  | none =>
    cases ha : (router.build parties owner s : Outcome (State W C) T C A _).answer with
    | error e =>
      rw [enter_error router parties hc ha]
      simp only [Trace.visits_append, hb.visits, hb.cache, List.nil_append]
      exact .single (v := .failed owner e) hc
    | ok client =>
      rw [enter_ok router parties hc ha]
      simp only [Trace.visits_append, hb.visits, List.nil_append]
      exact .single (v := .built owner client) hc

theorem tells_leave (entry : Entry C) : Tells (router.leave entry : Act (State W C) T C A C) :=
  Act.faithful_quiet (fun s => by rw [leave_apply]) fun s => by rw [leave_apply]

theorem tells_withdraw (address : Address) :
    Tells (router.withdraw address : Act (State W C) T C A Bool) := by
  intro s
  cases hc : s.cache.contains address with
  | true =>
    rw [withdraw_there router hc]
    exact .single (v := .removed address true) hc
  | false =>
    rw [withdraw_absent router hc]
    exact .single (v := .removed address false) hc

theorem tells_report (address : Address) :
    Tells (router.report address : Act (State W C) T C A Unit) :=
  Act.faithful_quiet (fun s => by rw [report_apply]) fun s => by rw [report_apply]

theorem tells_judge (change : Change) :
    Tells (judge change : Act (State W C) T C A (Option Address)) :=
  Act.faithful_quiet (fun s => by rw [judge_apply]) fun s => by rw [judge_apply]

/-! ## Whole operations -/

theorem tells_get (key : String) {during : Act (State W C) T C A Unit} (h : Tells during) :
    Tells (router.get parties key during) := by
  unfold get
  apply Act.faithful_bind (router.tells_resolve parties key h)
  rintro (e | owner)
  · exact Act.faithful_pure _
  · apply Act.faithful_bind
    · unfold probe
      apply Act.faithful_bind (tells_read owner)
      rintro (_ | entry)
      · exact Act.faithful_pure _
      · exact Act.faithful_bind (router.tells_leave entry) fun _ => Act.faithful_pure _
    · rintro (_ | client)
      · unfold ensure
        apply Act.faithful_bind (router.tells_enter parties owner)
        rintro (e | entry)
        · exact Act.faithful_pure _
        · exact Act.faithful_bind (router.tells_leave entry) fun _ => Act.faithful_pure _
      · exact Act.faithful_pure _

theorem tells_remove (address : Address) :
    Tells (router.remove address : Act (State W C) T C A Bool) := by
  unfold remove
  apply Act.faithful_bind (router.tells_withdraw address)
  intro there
  dsimp only
  split
  · exact Act.faithful_bind (router.tells_report address) fun _ => Act.faithful_pure _
  · exact Act.faithful_pure _

theorem tells_applyBatch (batch : List Change) :
    Tells (router.applyBatch batch : Act (State W C) T C A Unit) := by
  induction batch with
  | nil => exact Act.faithful_pure _
  | cons change batch ih =>
    refine Act.faithful_bind ?_ fun _ => ih
    apply Act.faithful_bind (tells_judge change)
    rintro (_ | address)
    · exact Act.faithful_pure _
    · exact Act.faithful_bind (router.tells_remove address) fun _ => Act.faithful_pure _

theorem tells_handleAll (events : List Event) :
    Tells (router.handleAll events : Act (State W C) T C A Unit) := by
  induction events with
  | nil => exact Act.faithful_pure _
  | cons event events ih =>
    refine Act.faithful_bind ?_ fun _ => ih
    cases event with
    | changes batch => exact router.tells_applyBatch batch
    | announcement content => exact Act.faithful_note _

mutual

theorem tells_run (op : Op N) :
    Tells (router.run parties op : Act (State W C) T C (Answer C N) (Answer C N)) := by
  cases op with
  | get key during =>
    exact Act.faithful_bind (router.tells_get parties key (tells_runDuring during))
      fun _ => Act.faithful_pure _
  | remove address =>
    exact Act.faithful_bind (router.tells_remove address) fun _ => Act.faithful_pure _
  | handle events =>
    exact Act.faithful_bind (router.tells_handleAll events) fun _ => Act.faithful_pure _
  | contains address => exact Act.faithful_bind (Act.faithful_look _) fun _ => Act.faithful_pure _
  | size => exact Act.faithful_bind (Act.faithful_look _) fun _ => Act.faithful_pure _
  | addresses => exact Act.faithful_bind (Act.faithful_look _) fun _ => Act.faithful_pure _
  | service => exact Act.faithful_pure _
  | remark content => exact Act.faithful_pure _

theorem tells_runDuring (ops : List (Op N)) :
    Tells (router.runDuring parties ops : Act (State W C) T C (Answer C N) Unit) := by
  cases ops with
  | nil => exact Act.faithful_pure _
  | cons op ops =>
    apply Act.faithful_bind (tells_run op)
    intro answer
    exact Act.faithful_bind (Act.faithful_record _) fun _ => tells_runDuring ops

end

/-! ## What the visits of an operation say

A routing call serves, with its own visits, the handle that it comes back with, and nobody else.
A removal and an event ask for what they name. So the visits of a run tell its calls. -/

/-- The visits of each operation say what it was asked and what it answered. -/
structure Told (A : Type) : Prop where
  /-- A call whose look-up answered. -/
  got : ∀ (key : String) (during : Act (State W C) T C A Unit) (s : State W C) (owner : Address),
    (parties.lookup key (during s).state.world).1 = .ok owner →
    ∃ own, (router.get parties key during s).trace.visits = (during s).trace.visits ++ own ∧
      (∀ address, own.filterMap (·.served? address) =
        if address = owner then (router.get parties key during s).answer.toOption.toList else []) ∧
      ∀ v ∈ own, v.asked? = none
  /-- A call whose look-up failed. -/
  lost : ∀ (key : String) (during : Act (State W C) T C A Unit) (s : State W C) (e : RouteError),
    (parties.lookup key (during s).state.world).1 = .error e →
    (router.get parties key during s).trace.visits = (during s).trace.visits
  removed : ∀ (address : Address) (s : State W C),
    let o : Outcome (State W C) T C A Bool := router.remove address s
    o.trace.visits = [.removed address o.answer]
  handled : ∀ (events : List Event) (s : State W C),
    ((router.handleAll events s : Outcome (State W C) T C A Unit).trace.visits.map (·.asked?)) =
      (((events.flatMap (·.batch)).filter (·.evicts)).map fun change => some change.address)

theorem get_visits {key : String} {during : Act (State W C) T C A Unit} {s : State W C}
    {owner : Address} (h : (parties.lookup key (during s).state.world).1 = .ok owner) :
    ∃ own, (router.get parties key during s).trace.visits = (during s).trace.visits ++ own ∧
      (∀ address, own.filterMap (·.served? address) =
        if address = owner then (router.get parties key during s).answer.toOption.toList else []) ∧
      ∀ v ∈ own, v.asked? = none := by
  unfold get
  simp only [Act.bind_apply, resolve_ok router parties h]
  generalize ({ (during s).state with
    world := (parties.lookup key (during s).state.world).2 } : State W C) = s'
  cases hc : s'.cache.find? owner with
  | some client =>
    simp only [probe_some router hc, Act.pure_apply]
    refine ⟨[.found .fast owner client], by simp, ?_, by simp [Visit.asked?]⟩
    intro address
    by_cases ha : address = owner
    · simp [Visit.served?, ha, Except.toOption]
    · simp [Visit.served?, ha, Ne.symm ha]
  | none =>
    have hquiet := (router.building (A := A) parties owner s').visits
    simp only [probe_none router hc]
    cases hb : (router.build parties owner s' : Outcome (State W C) T C A _).answer with
    | error e =>
      simp only [ensure_error router parties hc hb]
      exact ⟨[.missed owner, .failed owner e], by simp [hquiet],
        by simp [Visit.served?, Except.toOption], by simp [Visit.asked?]⟩
    | ok client =>
      simp only [ensure_ok router parties hc hb]
      refine ⟨[.missed owner, .built owner client], by simp [hquiet], ?_, by simp [Visit.asked?]⟩
      intro address
      by_cases ha : address = owner
      · simp [Visit.served?, ha, Except.toOption]
      · simp [Visit.served?, ha, Ne.symm ha]

theorem remove_visits (address : Address) (s : State W C) :
    let o : Outcome (State W C) T C A Bool := router.remove address s
    o.trace.visits = [.removed address o.answer] := by
  cases h : s.cache.contains address with
  | true => simp only [remove_there router h]
  | false => simp only [remove_absent router h]

/-- A change asks for its member's removal if it evicts. -/
theorem applyChange_visits (change : Change) (s : State W C) :
    (router.applyChange change s : Outcome (State W C) T C A Unit).trace.visits.map (·.asked?) =
      if change.evicts then [some change.address] else [] := by
  have hr := router.remove_visits (T := T) (A := A) change.address s
  unfold applyChange
  simp only [Act.bind_apply, judge_apply]
  cases change.evicts with
  | true => simp [Act.bind_apply, Act.pure_apply, hr, Visit.asked?]
  | false => simp [Act.pure_apply]

theorem applyBatch_visits (batch : List Change) (s : State W C) :
    (router.applyBatch batch s : Outcome (State W C) T C A Unit).trace.visits.map (·.asked?) =
      (batch.filter (·.evicts)).map fun change => some change.address := by
  induction batch generalizing s with
  | nil => rfl
  | cons change batch ih =>
    simp only [applyBatch, Act.bind_apply, Trace.visits_append, List.map_append,
      applyChange_visits, ih, List.filter_cons]
    cases change.evicts <;> simp

theorem handleAll_visits (events : List Event) (s : State W C) :
    (router.handleAll events s : Outcome (State W C) T C A Unit).trace.visits.map (·.asked?) =
      ((events.flatMap (·.batch)).filter (·.evicts)).map fun change => some change.address := by
  induction events generalizing s with
  | nil => rfl
  | cons event events ih =>
    simp only [handleAll, Act.bind_apply, Trace.visits_append, List.map_append, ih,
      List.flatMap_cons, List.filter_append]
    congr 1
    cases event with
    | changes batch => exact router.applyBatch_visits batch s
    | announcement content => rfl

theorem told : router.Told (C := C) parties A where
  got _ _ _ _ h := router.get_visits parties h
  lost key during s e h := by
    unfold get
    simp [Act.bind_apply, resolve_error router parties h, Act.pure_apply]
  removed := router.remove_visits
  handled := router.handleAll_visits

end Router

end KeyRoute
