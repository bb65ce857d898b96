-- The lifetimes of cached handles. Whatever the collaborators answer and however often they
-- change, the calls since the last removal decide what is cached: the first that succeeded built
-- the handle, all others got the same one, and a handle that was removed does not come back.
import KeyRoute.Proofs.History
import KeyRoute.Simulation.Cluster

namespace KeyRoute

variable {W T C A N : Type}

/-! ## Since the last removal -/

/-- The visits after the last time that an address was to be removed. -/
def since (address : Address) (past : List (Visit C)) : List (Visit C) :=
  past.rtakeWhile fun v => !v.asksRemoval address

theorem not_asked_of_mem_since {address : Address} {past : List (Visit C)} {v : Visit C}
    (h : v ∈ since address past) : v.asksRemoval address = false := by
  have := List.mem_rtakeWhile_imp h
  simpa using this

theorem not_removed_of_mem_since {address : Address} {past : List (Visit C)} {v : Visit C}
    (h : v ∈ since address past) : v.isRemoval address = false := by
  cases hr : v.isRemoval address with
  | false => rfl
  | true =>
    have := not_asked_of_mem_since h
    rw [Visit.asksRemoval_of_isRemoval hr] at this
    cases this

namespace Leads

variable {first last : Cache C} {past : List (Visit C)} {address other : Address} {client : C}

/-- Nothing is left where a removal was asked for. -/
theorem nothing_after_removal {v : Visit C} (h : Leads first (past ++ [v]) last)
    (hv : v.asksRemoval address = true) : last.find? address = none := by
  obtain ⟨mid, -, h⟩ := split h
  cases h with
  | cons hfits hnil =>
    cases hnil
    rcases Visit.cases_at address hfits with ⟨c, rfl, -, -⟩ | ⟨rfl, -, h1⟩ | ⟨-, -, h1, -, hasked⟩
    · simp [Visit.asksRemoval] at hv
    · exact h1
    · rw [h1]
      exact hasked hv

/-- The visits since the last removal start from an empty place. -/
theorem since_starts_empty (address : Address) (h : Leads .empty past last) :
    ∃ mid : Cache C, mid.find? address = none ∧ Leads mid (since address past) last := by
  have hsplit : past.rdropWhile (fun v => !v.asksRemoval address) ++ since address past = past :=
    List.rdropWhile_append_rtakeWhile
  rw [← hsplit] at h
  obtain ⟨mid, hold, hnew⟩ := split h
  refine ⟨mid, ?_, hnew⟩
  by_cases hempty : past.rdropWhile (fun v => !v.asksRemoval address) = []
  · rw [hempty] at hold
    cases hold
    exact Cache.find?_empty address
  · have hlast := List.rdropWhile_last_not (fun v => !v.asksRemoval address) past hempty
    rw [← List.dropLast_append_getLast hempty] at hold
    exact nothing_after_removal hold (by simpa using hlast)

/-- What is cached was built, and not removed since. -/
theorem cached_was_built (h : Leads .empty past last) (hcached : last.find? address = some client) :
    ∃ before after, past = before ++ .built address client :: after ∧
      ∀ v ∈ after, v.asksRemoval address = false := by
  obtain ⟨mid, hmid, hnew⟩ := since_starts_empty address h
  rcases first_build hnew hmid fun v => not_removed_of_mem_since with
    ⟨hnone, -⟩ | ⟨c, hsome, hfind, -⟩
  · rw [hnone] at hcached
    cases hcached
  · rw [hsome] at hcached
    cases hcached
    obtain ⟨-, new, more, hnew', -⟩ := List.find?_eq_some_iff_append.mp hfind
    refine ⟨past.rdropWhile (fun v => !v.asksRemoval address) ++ new, more, ?_, ?_⟩
    · rw [List.append_assoc, ← hnew']
      exact (List.rdropWhile_append_rtakeWhile).symm
    · intro v hv
      exact not_asked_of_mem_since (hnew' ▸ List.mem_append_right new (List.mem_cons_of_mem _ hv))

/-- What a call got was built before, and not removed in between. -/
theorem served_was_built {v : Visit C} (h : Leads .empty (past ++ [v]) last)
    (hs : v.served? address = some client) :
    ∃ before after, past ++ [v] = before ++ .built address client :: after ∧
      ∀ w ∈ after, w.asksRemoval address = false := by
  apply cached_was_built h
  obtain ⟨mid, -, h⟩ := split h
  cases h with
  | cons hfits hnil =>
    cases hnil
    exact Visit.find?_apply_of_served hfits hs

theorem built_twice {l : List (Visit C)} (h : (l.filterMap Visit.built?).Nodup)
    (h1 : .built address client ∈ l) (h2 : .built other client ∈ l) : address = other := by
  induction l with
  | nil => cases h1
  | cons v l ih =>
    have hin : ∀ a, Visit.built a client ∈ l → client ∈ l.filterMap Visit.built? :=
      fun a ha => List.mem_filterMap.mpr ⟨_, ha, rfl⟩
    rcases List.mem_cons.mp h1 with rfl | h1'
    · have hnot : client ∉ l.filterMap Visit.built? := (List.nodup_cons.mp h).1
      rcases List.mem_cons.mp h2 with h2' | h2'
      · cases h2'
        rfl
      · exact absurd (hin _ h2') hnot
    · rcases List.mem_cons.mp h2 with rfl | h2'
      · have hnot : client ∉ l.filterMap Visit.built? := (List.nodup_cons.mp h).1
        exact absurd (hin _ h1') hnot
      · refine ih ?_ h1' h2'
        exact h.sublist (List.Sublist.filterMap _ (List.sublist_cons_self v l))

/-- If no handle is built twice, one that a call got before it was removed is never got again, at no
address. -/
theorem removed_never_serves {before after : List (Visit C)} {v w : Visit C}
    (h : Leads .empty (before ++ .removed address true :: after) last)
    (hfresh : ((before ++ .removed address true :: after).filterMap Visit.built?).Nodup)
    (hv : v ∈ before) (hs : v.served? address = some client) (hw : w ∈ after) :
    w.served? other ≠ some client := by
  intro hw'
  obtain ⟨old, rest, rfl⟩ := List.append_of_mem hv
  obtain ⟨between, rest', rfl⟩ := List.append_of_mem hw
  have hbuilt : .built address client ∈ old ++ v :: rest := by
    have hshort : Leads .empty (old ++ [v]) _ := (split (by simpa using h)).choose_spec.1
    obtain ⟨l, r, heq, -⟩ := served_was_built hshort hs
    have : .built address client ∈ old ++ [v] := heq ▸ List.mem_append_right l List.mem_cons_self
    simp only [List.mem_append, List.mem_singleton] at this
    simp only [List.mem_append, List.mem_cons]
    tauto
  generalize old ++ v :: rest = before at h hfresh hbuilt
  have hlong : ∃ mid, Leads .empty ((before ++ .removed address true :: between) ++ [w]) mid := by
    obtain ⟨mid, hmid, -⟩ := split (show Leads .empty
      (((before ++ .removed address true :: between) ++ [w]) ++ rest') last by simpa using h)
    exact ⟨mid, hmid⟩
  obtain ⟨mid, hlong⟩ := hlong
  obtain ⟨l, r, heq, hkept⟩ := served_was_built hlong hw'
  have hnodup : ((before ++ (.removed address true :: between ++ [w])).filterMap
      Visit.built?).Nodup := by
    refine hfresh.sublist (List.Sublist.filterMap _ ?_)
    simp
  simp only [List.append_assoc] at heq
  rcases List.append_eq_append_iff.mp heq with ⟨x, rfl, hx⟩ | ⟨x, rfl, hx⟩
  · -- the handle was built for `other` only after the removal, so it was built twice
    rw [List.filterMap_append, List.nodup_append] at hnodup
    have h1 : client ∈ before.filterMap Visit.built? := List.mem_filterMap.mpr ⟨_, hbuilt, rfl⟩
    have h2 : client ∈ (Visit.removed address true :: between ++ [w]).filterMap Visit.built? := by
      refine List.mem_filterMap.mpr ⟨.built other client, ?_, rfl⟩
      rw [hx]
      exact List.mem_append_right x List.mem_cons_self
    exact hnodup.2.2 client h1 client h2 rfl
  · cases x with
    | nil =>
      simp at hx
    | cons b x =>
      -- it was built for `other` before the removal, so `other` is the address that was removed
      simp only [List.cons_append, List.cons.injEq] at hx
      obtain ⟨rfl, rfl⟩ := hx
      have hsame : address = other := by
        refine built_twice (hnodup.sublist (List.Sublist.filterMap _ ?_)) hbuilt
          (List.mem_append_right l List.mem_cons_self)
        exact List.sublist_append_left _ _
      have := hkept (.removed address true) (by simp)
      simp [Visit.asksRemoval, hsame] at this

end Leads

/-! ## Whole runs -/

namespace Router

variable (router : Router) (parties : Collaborators W T C)

/-- Runs operations one after the other. Before each of them the collaborators may have changed on
their own, and each look-up may run operations in turn. -/
def runAmid : List (W × Op N) → Act (State W C) T C (Answer C N) (List (Answer C N))
  | [] => return []
  | (world, op) :: ops => do
    Act.change fun state => { state with world := world }
    let answer ← router.run parties op
    return answer :: (← runAmid ops)

theorem tells_runAmid (ops : List (W × Op N)) : Tells (router.runAmid parties ops) := by
  induction ops with
  | nil => exact Act.faithful_pure _
  | cons entry ops ih =>
    refine Act.faithful_bind (Act.faithful_quiet (fun _ => rfl) fun _ => rfl) fun _ => ?_
    refine Act.faithful_bind (router.tells_run parties entry.2) fun _ => ?_
    exact Act.faithful_bind ih fun _ => Act.faithful_pure _

/-- The history of a run decides what is cached at its end. An address is cached iff a call that
resolved to it succeeded after the last time that it was to be removed; then its handle is the one
that the first such call built, all such calls got it, and no other was built since. If no handle is
built twice, one that was got before a removal took it out is never got again. -/
theorem the_history_decides_the_cache (world : W) (ops : List (W × Op N)) (address : Address) :
    let o := router.runAmid parties ops ⟨world, .empty⟩
    let past := o.trace.visits
    router.Told (C := C) parties (Answer C N) ∧
    (o.state.cache.contains address = true ↔
      ∃ v ∈ since address past, (v.served? address).isSome) ∧
    (∀ client, o.state.cache.find? address = some client →
      (since address past).find? (fun v => (v.served? address).isSome) =
        some (.built address client) ∧
      (∀ v ∈ since address past, ∀ c, v.served? address = some c → c = client) ∧
      Leads.builds address (since address past) = 1) ∧
    ((past.filterMap Visit.built?).Nodup →
      ∀ before after, past = before ++ .removed address true :: after →
        ∀ v ∈ before, ∀ client, v.served? address = some client →
          ∀ w ∈ after, ∀ other, w.served? other ≠ some client) := by
  intro o past
  have h : Leads .empty past o.state.cache := router.tells_runAmid parties ops ⟨world, .empty⟩
  obtain ⟨mid, hmid, hnew⟩ := Leads.since_starts_empty address h
  have hcases := Leads.first_build hnew hmid fun v => not_removed_of_mem_since
  refine ⟨router.told parties, ?_, ?_, ?_⟩
  · rcases hcases with ⟨hnone, hserved⟩ | ⟨client, hsome, hfind, -⟩
    · simp only [Cache.contains, hnone, Option.isSome_none, Bool.false_eq_true, false_iff]
      rintro ⟨v, hv, hs⟩
      rw [hserved v hv] at hs
      cases hs
    · simp only [Cache.contains, hsome, Option.isSome_some, true_iff]
      exact ⟨_, List.mem_of_find?_eq_some hfind, by simp [Visit.served?]⟩
  · intro client hclient
    rcases hcases with ⟨hnone, -⟩ | ⟨c, hsome, hrest⟩
    · rw [hnone] at hclient
      cases hclient
    · rw [hsome] at hclient
      cases hclient
      exact hrest
  · rintro hfresh before after hpast v hv client hs w hw other
    rw [hpast] at h hfresh
    exact Leads.removed_never_serves h hfresh hv hs hw

/-- A key is asked for, its owner removed, and the key asked for again. -/
theorem a_removed_handle_is_replaced :
    let router : Router := ⟨"svc", true⟩
    let cluster := Cluster.start "a" "svc" [("k", "b")]
    let o := router.runAmid (N := Empty) Cluster.parties
      [(cluster, .get "k" []), (cluster, .remove "b"), ({ cluster with me := "b" }, .get "k" [])]
      ⟨cluster, .empty⟩
    let removed : Handle := .remote "svc" "b" 1
    o.trace.visits = [.missed "b", .built "b" removed, .removed "b" true,
      .missed "b", .built "b" (.inProcess 1)] ∧
    (o.trace.visits.filterMap Visit.built?).Nodup ∧
    ∀ w ∈ [Visit.missed "b", .built "b" (Handle.inProcess 1)], ∀ other,
      w.served? other ≠ some removed := by
  intro router cluster o removed
  have hpast : o.trace.visits = [.missed "b", .built "b" removed, .removed "b" true,
      .missed "b", .built "b" (.inProcess 1)] := by decide +kernel
  have hfresh : (o.trace.visits.filterMap Visit.built?).Nodup := by
    rw [hpast]
    decide
  refine ⟨hpast, hfresh, ?_⟩
  exact (the_history_decides_the_cache router Cluster.parties cluster _ "b").2.2.2 hfresh
    [.missed "b", .built "b" removed] _ hpast (.built "b" removed) (by simp) removed
    rfl

end Router

end KeyRoute
