-- A batch of changes as a set. However long it is, in whatever order and however often it names a
-- member, a batch takes away the handles of the members that it reports dead and no others, and
-- each handle that it takes is counted once. So batches that report the same members dead come to
-- the same, and a batch that comes again finds nothing more to do.
import Mathlib.Data.Finset.Card
import KeyRoute.Proofs.Isolation

namespace KeyRoute

variable {W T C A : Type}

/-! ## Who is dead -/

namespace Change

/-- The addresses of the members that a batch reports dead. -/
def dead (batch : List Change) : List Address := (batch.filter evicts).map (·.address)

/-- A member is dead if it is faulty or has left; a change of nobody reports nobody dead. -/
theorem evicts_iff {change : Change} :
    change.evicts = true ↔
      change.malformed = false ∧ (change.status = .faulty ∨ change.status = .leave) := by
  unfold evicts
  cases change.malformed <;> cases change.status <;> decide

theorem mem_dead {batch : List Change} {address : Address} :
    address ∈ dead batch ↔ ∃ change ∈ batch, change.address = address ∧
      change.malformed = false ∧ (change.status = .faulty ∨ change.status = .leave) := by
  simp only [dead, List.mem_map, List.mem_filter, evicts_iff]
  constructor
  · rintro ⟨change, ⟨hmem, hevicts⟩, rfl⟩
    exact ⟨change, hmem, rfl, hevicts⟩
  · rintro ⟨change, hmem, rfl, hevicts⟩
    exact ⟨change, ⟨hmem, hevicts⟩, rfl⟩

theorem dead_append (batch more : List Change) : dead (batch ++ more) = dead batch ++ dead more := by
  unfold dead
  rw [List.filter_append, List.map_append]

theorem dead_singleton (change : Change) :
    dead [change] = if change.evicts then [change.address] else [] := by
  unfold dead
  rw [List.filter_singleton]
  cases change.evicts <;> rfl

/-- A batch is put in other words: its changes may stand in another order, and some may come again
that are in it, or come that report nobody dead. -/
inductive Reworded : List Change → List Change → Prop
  | refl (batch : List Change) : Reworded batch batch
  | symm {batch batch' : List Change} (h : Reworded batch batch') : Reworded batch' batch
  | trans {a b c : List Change} (h : Reworded a b) (h' : Reworded b c) : Reworded a c
  | moved {batch batch' : List Change} (h : batch.Perm batch') : Reworded batch batch'
  | repeated {change : Change} {batch : List Change} (h : change ∈ batch) :
      Reworded batch (change :: batch)
  | idle {change : Change} (batch : List Change) (h : change.evicts = false) :
      Reworded batch (change :: batch)

/-- Other words report the same members dead. -/
theorem Reworded.dead_iff {batch batch' : List Change} (h : Reworded batch batch')
    (address : Address) : address ∈ dead batch ↔ address ∈ dead batch' := by
  induction h with
  | refl => exact Iff.rfl
  | symm _ ih => exact ih.symm
  | trans _ _ ih ih' => exact ih.trans ih'
  | moved h => exact ((h.filter evicts).map _).mem_iff
  | @repeated change batch h =>
    rw [mem_dead, mem_dead]
    constructor
    · rintro ⟨other, hmem, hother⟩
      exact ⟨other, List.mem_cons_of_mem change hmem, hother⟩
    · rintro ⟨other, hmem, hother⟩
      rcases List.mem_cons.mp hmem with rfl | hmem
      · exact ⟨other, h, hother⟩
      · exact ⟨other, hmem, hother⟩
  | @idle change batch h =>
    rw [← List.singleton_append, dead_append, dead_singleton, h]
    rfl

end Change

/-! ## What is left of a cache -/

namespace Cache

/-- A cache without the handles at some addresses. -/
def without (cache : Cache C) (addresses : List Address) : Cache C :=
  ⟨cache.entries.filter fun entry => entry.1 ∉ addresses⟩

theorem without_nil (cache : Cache C) : cache.without [] = cache := by
  simp [without]

theorem without_singleton (cache : Cache C) (address : Address) :
    cache.without [address] = cache.erase address := by
  unfold without erase
  congr 2
  funext entry
  simp [bne, beq_eq_decide]

theorem without_append (cache : Cache C) (addresses more : List Address) :
    cache.without (addresses ++ more) = (cache.without addresses).without more := by
  unfold without
  rw [List.filter_filter]
  congr 2
  funext entry
  simp [Bool.and_comm]

theorem without_congr (cache : Cache C) {addresses addresses' : List Address}
    (h : ∀ address, address ∈ addresses ↔ address ∈ addresses') :
    cache.without addresses = cache.without addresses' := by
  unfold without
  simp only [h]

theorem without_without (cache : Cache C) (addresses : List Address) :
    (cache.without addresses).without addresses = cache.without addresses := by
  unfold without
  rw [List.filter_filter]
  simp only [Bool.and_self]

/-- What is left of a cache is what it was. -/
theorem find?_without (cache : Cache C) (addresses : List Address) (other : Address) :
    (cache.without addresses).find? other =
      if other ∈ addresses then none else cache.find? other := by
  induction addresses generalizing cache with
  | nil => simp [without_nil]
  | cons address addresses ih =>
    rw [← List.singleton_append, without_append, without_singleton, ih, find?_erase]
    by_cases h : other = address <;> simp [h]

theorem addresses_without (cache : Cache C) (addresses : List Address) :
    (cache.without addresses).addresses = cache.addresses.filter (· ∉ addresses) := by
  unfold without Cache.addresses
  rw [List.filter_map]
  rfl

/-- How many addresses had a handle in one cache and have none in another. -/
def lost (before after : Cache C) : Nat :=
  (before.addresses.toFinset \ after.addresses.toFinset).card

theorem lost_self (cache : Cache C) : cache.lost cache = 0 := by
  simp [lost]

theorem lost_erase {cache : Cache C} {address : Address} (h : cache.contains address = true) :
    cache.lost (cache.erase address) = 1 := by
  have hmem : address ∈ cache.addresses.toFinset := by
    rwa [List.mem_toFinset, mem_addresses_iff]
  have herased : (cache.erase address).addresses.toFinset = cache.addresses.toFinset.erase address := by
    ext other
    simp [addresses_erase, and_comm]
  unfold lost
  rw [herased, Finset.sdiff_erase_self hmem, Finset.card_singleton]

/-- What is lost in two steps adds up. -/
theorem lost_append (cache : Cache C) (addresses more : List Address) :
    cache.lost (cache.without (addresses ++ more)) =
      cache.lost (cache.without addresses) +
        (cache.without addresses).lost ((cache.without addresses).without more) := by
  have hless : ∀ (cache : Cache C) (addresses : List Address),
      (cache.without addresses).addresses.toFinset ⊆ cache.addresses.toFinset := by
    intro cache addresses other
    simp only [addresses_without, List.mem_toFinset, List.mem_filter]
    exact And.left
  have hfirst := hless cache addresses
  have hsecond := hless (cache.without addresses) more
  have h := Finset.card_sdiff_add_card_eq_card hfirst
  have h' := Finset.card_sdiff_add_card_eq_card hsecond
  have h'' := Finset.card_sdiff_add_card_eq_card (hsecond.trans hfirst)
  rw [without_append]
  unfold lost
  omega

end Cache

/-! ## What a batch does -/

namespace Router

variable (router : Router)

/-- The moves of the metrics for so many handles that are evicted. -/
def evictions (n : Nat) : List Move :=
  (List.replicate n
    (router.made [Sample.down .cachedClients] ++ router.made [Sample.up .evictions])).flatten

theorem evictions_add (m n : Nat) :
    router.evictions (m + n) = router.evictions m ++ router.evictions n := by
  unfold evictions
  rw [List.replicate_add, List.flatten_append]

/-- Each eviction is counted, and the gauge falls with it. -/
theorem value_evictions (n : Nat) (sample : Sample) :
    Metrics.value (router.evictions n) sample =
      if router.metricsEnabled then
        match sample with
        | .evictions => n
        | .cachedClients => -n
        | _ => 0
      else 0 := by
  induction n with
  | zero => cases sample <;> simp [evictions, Metrics.value]
  | succ n ih =>
    rw [evictions_add, Metrics.value_append, ih]
    cases henabled : router.metricsEnabled with
    | false => simp [evictions, made, henabled, Metrics.value]
    | true =>
      cases sample <;>
        simp [evictions, made, henabled, Metrics.value, Metrics.effect, Sample.up, Sample.down]
      omega

/-- All that a router does when some members are reported dead: it forgets their handles. -/
structure Buries (dead : List Address) (s : State W C) (o : Outcome (State W C) T C A Unit) :
    Prop where
  state : o.state = { s with cache := s.cache.without dead }
  calls : o.trace.calls = []
  moves : o.trace.moves = router.evictions (s.cache.lost (s.cache.without dead))

theorem Buries.append {router : Router} {dead more : List Address} {s : State W C}
    {o p : Outcome (State W C) T C A Unit} (h : router.Buries dead s o)
    (h' : router.Buries more o.state p) :
    router.Buries (dead ++ more) s ⟨(), p.state, o.trace ++ p.trace⟩ where
  state := by rw [h'.state, h.state, Cache.without_append]
  calls := by rw [Trace.calls_append, h.calls, h'.calls, List.append_nil]
  moves := by
    rw [Trace.moves_append, h.moves, h'.moves, h.state, ← evictions_add, ← Cache.lost_append]

theorem buries_nobody (s : State W C) (trace : Trace T C A) (hcalls : trace.calls = [])
    (hmoves : trace.moves = []) : router.Buries [] s ⟨(), s, trace⟩ where
  state := by rw [Cache.without_nil]
  calls := hcalls
  moves := by rw [Cache.without_nil, Cache.lost_self, hmoves]; rfl

/-- A change that evicts takes one handle away, if there is one; another does nothing. -/
theorem buries_change (change : Change) (s : State W C) :
    router.Buries (Change.dead [change]) s
      (router.applyChange change s : Outcome (State W C) T C A Unit) := by
  unfold applyChange
  simp only [Act.bind_apply, judge_apply, Change.dead_singleton]
  cases change.evicts with
  | false => exact router.buries_nobody s _ rfl rfl
  | true =>
    simp only [if_true, Act.bind_apply, Act.pure_apply]
    cases hc : s.cache.contains change.address with
    | true =>
      simp only [remove_there router hc]
      refine ⟨by rw [Cache.without_singleton], rfl, ?_⟩
      rw [Cache.without_singleton, Cache.lost_erase hc]
      simp [evictions]
    | false =>
      simp only [remove_absent router hc]
      refine ⟨by rw [Cache.without_singleton, Cache.erase_of_absent hc], rfl, ?_⟩
      rw [Cache.without_singleton, Cache.erase_of_absent hc, Cache.lost_self]
      rfl

theorem buries_batch (batch : List Change) (s : State W C) :
    router.Buries (Change.dead batch) s
      (router.applyBatch batch s : Outcome (State W C) T C A Unit) := by
  induction batch generalizing s with
  | nil => exact router.buries_nobody s _ rfl rfl
  | cons change batch ih =>
    rw [← List.singleton_append, Change.dead_append]
    exact (router.buries_change change s).append (ih _)

/-- Batches that report the same members dead come to the same. -/
theorem Buries.same {router : Router} {dead dead' : List Address} {s : State W C}
    {o o' : Outcome (State W C) T C A Unit} (h : router.Buries dead s o)
    (h' : router.Buries dead' s o') (hsame : ∀ address, address ∈ dead ↔ address ∈ dead') :
    o'.state = o.state ∧ o'.trace.moves = o.trace.moves := by
  rw [h.state, h'.state, h.moves, h'.moves, s.cache.without_congr hsame]
  exact ⟨rfl, rfl⟩

theorem applyBatch_append (batch more : List Change) :
    (router.applyBatch (batch ++ more) : Act (State W C) T C A Unit) =
      (router.applyBatch batch >>= fun _ => router.applyBatch more) := by
  induction batch with
  | nil => rw [List.nil_append, applyBatch, Act.pure_bind]
  | cons change batch ih => simp only [List.cons_append, applyBatch, ih, Act.bind_assoc]

/-- Batches that come one after the other are one batch. -/
theorem handleAll_batches (parts : List (List Change)) :
    (router.handleAll (parts.map .changes) : Act (State W C) T C A Unit) =
      router.handle (.changes parts.flatten) := by
  induction parts with
  | nil => rfl
  | cons part parts ih =>
    simp only [List.map_cons, handleAll, List.flatten_cons, handle, applyBatch_append] at ih ⊢
    rw [ih]

/-- A batch of changes takes the handles of those members out of the cache that it reports dead,
faulty or gone, and leaves all others as they are; it puts nothing in and asks nobody. As many
evictions are counted as addresses have lost their handles, and the gauge falls by as many. So it
does not matter in which words it reports them, nor into how many batches it is cut; the same batch
comes to nothing when it comes again, and what else a batch says of a member that it reports dead,
such as that it is alive, does not bring its handle back. An announcement does none of this. -/
theorem a_batch_takes_away_the_dead (batch : List Change) (s : State W C) :
    let o : Outcome (State W C) T C A Unit := router.handle (.changes batch) s
    let again : Outcome (State W C) T C A Unit := router.handle (.changes batch) o.state
    let lost := (s.cache.addresses.toFinset \ o.state.cache.addresses.toFinset).card
    o.state = { s with cache := s.cache.without (Change.dead batch) } ∧
    (∀ address, o.state.cache.find? address =
      if address ∈ Change.dead batch then none else s.cache.find? address) ∧
    o.trace.calls = [] ∧
    (∀ sample, Metrics.value o.trace.moves sample =
      if router.metricsEnabled then
        match sample with
        | .evictions => (lost : Int)
        | .cachedClients => -lost
        | _ => 0
      else 0) ∧
    (∀ batch', Change.Reworded batch batch' →
      let o' : Outcome (State W C) T C A Unit := router.handle (.changes batch') s
      o'.state = o.state ∧ o'.trace.moves = o.trace.moves) ∧
    (∀ parts : List (List Change), parts.flatten = batch →
      router.handleAll (parts.map .changes) s = o) ∧
    again.state = o.state ∧ again.trace.moves = [] ∧
    (∀ change ∈ batch, change.evicts = true → o.state.cache.find? change.address = none) ∧
    ∀ content,
      let a : Outcome (State W C) T C A Unit := router.handle (.announcement content) s
      a.state = s ∧ a.trace.calls = [] ∧ a.trace.moves = [] := by
  intro o again lost
  have hburies : router.Buries (Change.dead batch) s o := router.buries_batch batch s
  have hagain : router.Buries (Change.dead batch) o.state again :=
    router.buries_batch batch o.state
  have hfind : ∀ address, o.state.cache.find? address =
      if address ∈ Change.dead batch then none else s.cache.find? address := by
    intro address
    rw [hburies.state, Cache.find?_without]
  have hnothing : o.state.cache.without (Change.dead batch) = o.state.cache := by
    rw [hburies.state, Cache.without_without]
  refine ⟨hburies.state, hfind, hburies.calls, ?_, ?_, ?_, ?_, ?_, ?_, ?_⟩
  · intro sample
    have hlost : s.cache.lost (s.cache.without (Change.dead batch)) = lost := by
      simp only [lost, hburies.state, Cache.lost]
    rw [hburies.moves, value_evictions, hlost]
  · intro batch' hreworded
    exact hburies.same (router.buries_batch batch' s) hreworded.dead_iff
  · rintro parts rfl
    exact congrFun (router.handleAll_batches parts) s
  · rw [hagain.state, hnothing]
  · rw [hagain.moves, hnothing, Cache.lost_self]
    rfl
  · intro change hmem hevicts
    rw [hfind, if_pos]
    exact List.mem_map_of_mem (List.mem_filter.mpr ⟨hmem, hevicts⟩)
  · exact fun content => ⟨rfl, rfl, rfl⟩

/-- One member is reported dead twice and alive in between, another has left, a third is only
suspected, and nobody at all is faulty. -/
theorem two_of_three_handles_go :
    let router : Router := ⟨"svc", true⟩
    let batch : List Change := [.new "b" .faulty, .new " 	" .faulty, .new "b" .alive,
      .new "d" .leave, .new "c" .suspect, .new "b" .leave]
    let batch' : List Change := [.new "b" .leave, .new "c" .suspect, .new "d" .leave,
      .new "b" .alive, .new " 	" .faulty, .new "b" .faulty]
    let cluster := Cluster.start "a" "svc" []
    let cache : Cache Handle :=
      ⟨[("b", .remote "svc" "b" 1), ("c", .remote "svc" "c" 1), ("d", .remote "svc" "d" 1)]⟩
    let o : Outcome (State Cluster Handle) Wire Handle Empty Unit :=
      router.handle (.changes batch) ⟨cluster, cache⟩
    let o' : Outcome (State Cluster Handle) Wire Handle Empty Unit :=
      router.handle (.changes (.new "c" .alive :: batch')) ⟨cluster, cache⟩
    Change.dead batch = ["b", "d", "b"] ∧ o.state.cache.addresses = ["c"] ∧
    Metrics.value o.trace.moves .evictions = 2 ∧ Metrics.value o.trace.moves .cachedClients = -2 ∧
    o'.state = o.state ∧ o'.trace.moves = o.trace.moves ∧
    router.handleAll [.changes (batch.take 2), .changes (batch.drop 2)] ⟨cluster, cache⟩ = o ∧
    o.state.cache.find? "b" = none := by
  intro router batch batch' cluster cache o o'
  obtain ⟨hstate, -, -, hmetrics, hwords, hparts, -, -, hgone, -⟩ :=
    a_batch_takes_away_the_dead (T := Wire) (A := Empty) router batch ⟨cluster, cache⟩
  have hreworded : Change.Reworded batch (.new "c" .alive :: batch') :=
    .trans (.moved (List.reverse_perm batch).symm) (.idle batch' (by decide +kernel))
  have hsame := hwords _ hreworded
  have hcut := hparts [batch.take 2, batch.drop 2] (by decide +kernel)
  have hb := hgone (.new "b" .faulty) (by decide +kernel) (by decide +kernel)
  refine ⟨by decide +kernel, ?_, ?_, ?_, hsame.1, hsame.2, hcut, hb⟩
  · rw [hstate]
    decide +kernel
  · rw [hmetrics]
    decide +kernel
  · rw [hmetrics]
    decide +kernel

end Router

end KeyRoute
