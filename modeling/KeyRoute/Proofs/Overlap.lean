-- Calls that overlap. However the steps of the callers fall between one another, the visits to the
-- cache lead from one state of it to the next, so each address has one handle at a time; and a call
-- comes back with what was cached for its owner right after its last visit.
import KeyRoute.Proofs.Accounts
import KeyRoute.Simulation.Cluster

namespace KeyRoute

variable {W T C A : Type}

/-! ## The history of a crowd -/

namespace Router

variable (router : Router) (parties : Collaborators W T C)

theorem tells_fly (flight : Flight C) :
    Tells (router.fly parties flight : Act (State W C) T C A (Thread C)) := by
  cases flight with
  | called key =>
    apply Act.faithful_bind (router.tells_resolve parties key (Act.faithful_pure ()))
    rintro (e | owner) <;> exact Act.faithful_pure _
  | resolved key owner =>
    apply Act.faithful_bind (tells_read owner)
    rintro (_ | entry) <;> exact Act.faithful_pure _
  | missed key owner =>
    exact Act.faithful_bind (router.tells_enter parties owner) fun _ => Act.faithful_pure _
  | leaving key owner outcome =>
    cases outcome with
    | error e => exact Act.faithful_pure _
    | ok entry => exact Act.faithful_bind (router.tells_leave entry) fun _ => Act.faithful_pure _

theorem tells_work (job : Job C) :
    Tells (router.work parties job : Act (State W C) T C A (Thread C)) := by
  cases job with
  | get flight => exact router.tells_fly parties flight
  | remove address =>
    exact Act.faithful_bind (router.tells_withdraw address) fun _ => Act.faithful_pure _
  | report address =>
    exact Act.faithful_bind (router.tells_report address) fun _ => Act.faithful_pure _
  | handle event =>
    cases event with
    | changes batch => exact Act.faithful_pure _
    | announcement content =>
      exact Act.faithful_bind (Act.faithful_note _) fun _ => Act.faithful_pure _
  | apply change =>
    apply Act.faithful_bind (tells_judge change)
    rintro (_ | address) <;> exact Act.faithful_pure _

/-- What the step was that led to some point of a call, from a state to a cache. -/
def CameFrom (parties : Collaborators W T C) (was : Job C) (s : State W C) (cache : Cache C) :
    Job C → Prop
  | .get (.resolved key owner) =>
    was = .get (.called key) ∧ (parties.lookup key s.world).1 = .ok owner
  | .get (.missed key owner) => was = .get (.resolved key owner) ∧ cache.find? owner = none
  | .get (.leaving key (some owner) (.ok entry)) =>
    (was = .get (.resolved key owner) ∨ was = .get (.missed key owner)) ∧
      cache.find? owner = some entry.client
  | .get (.leaving _ none (.ok _)) => False
  | _ => True

theorem came_from {was job : Job C} {s : State W C}
    (h : (router.work parties was s : Outcome (State W C) T C A _).answer.jobs.head? = some job) :
    CameFrom parties was s
      (router.work parties was s : Outcome (State W C) T C A _).state.cache job := by
  have hw := router.worked (A := A) parties was s
  revert h hw
  generalize (router.work parties was s : Outcome (State W C) T C A _) = o
  intro h hw
  cases hw with
  | resolved hl =>
    cases h
    exact ⟨rfl, hl⟩
  | hit hc =>
    cases h
    exact ⟨Or.inl rfl, hc⟩
  | missed hc =>
    cases h
    exact ⟨rfl, hc⟩
  | overtaken hc =>
    cases h
    exact ⟨Or.inr rfl, hc⟩
  | built hc hb =>
    cases h
    exact ⟨Or.inr rfl, by simp [Cache.find?_insert, Entry.client]⟩
  | @handled batch =>
    cases batch with
    | nil => cases h
    | cons change batch =>
      cases h
      trivial
  | @applied change =>
    simp only at h
    split at h <;> cases h
    trivial
  | lost | failed | removed =>
    cases h
    trivial
  | gaveUp | cameBack | absent | reported | ignored => cases h

/-- Only a call that was leaving comes back, with the outcome that it had. -/
theorem returned_leaving {job : Job C} {s : State W C} {back : Return C} {client : C}
    (h : back ∈ (router.work parties job s : Outcome (State W C) T C A _).answer.returned)
    (hok : back.result = .ok client) :
    (∃ entry, job = .get (.leaving back.key back.owner (.ok entry)) ∧ entry.client = client) ∧
      (router.work parties job s : Outcome (State W C) T C A _).answer.returned = [back] := by
  have hw := router.worked (A := A) parties job s
  revert h hw
  generalize (router.work parties job s : Outcome (State W C) T C A _) = o
  intro h hw
  cases hw with
  | @cameBack key owner entry =>
    rw [List.mem_singleton.mp h] at hok ⊢
    exact ⟨⟨entry, rfl, Except.ok.inj hok⟩, rfl⟩
  | gaveUp =>
    rw [List.mem_singleton.mp h] at hok
    cases hok
  | _ => cases h

end Router

namespace Crowd

variable (router : Router) (parties : Collaborators W T C)

theorem faithful_stir (s : Stir W) :
    (stir router parties s : Act (Crowd W C) T C A Unit).Faithful (·.state.cache) := by
  intro crowd
  cases s with
  | tick i =>
    rw [stir_tick]
    rcases tick_cases (A := A) router parties i crowd with
      ⟨-, hs⟩ | ⟨thread, job, jobs, -, -, hs⟩
    · rw [hs]
      exact .nil _
    · rw [hs]
      exact router.tells_work parties job crowd.state
  | join requests => exact .nil _
  | drift world => exact .nil _

theorem faithful_run (stirs : List (Stir W)) :
    (run router parties stirs : Act (Crowd W C) T C A Unit).Faithful (·.state.cache) := by
  induction stirs with
  | nil => exact Act.faithful_pure _
  | cons s stirs ih => exact Act.faithful_bind (faithful_stir router parties s) fun _ => ih

/-! ## What a call comes back with -/

/-- The crowd after some stirs. -/
def after (A : Type) (crowd : Crowd W C) (stirs : List (Stir W)) : Crowd W C :=
  (run router parties stirs crowd : Outcome (Crowd W C) T C A Unit).state

theorem after_concat (crowd : Crowd W C) (stirs : List (Stir W)) (s : Stir W) :
    after router parties A crowd (stirs ++ [s]) =
      (stir router parties s (after router parties A crowd stirs) :
        Outcome (Crowd W C) T C A Unit).state := by
  unfold after
  rw [run_concat]

/-- The routing calls that came back to a thread. -/
def returnedTo (crowd : Crowd W C) (i : Nat) : List (Return C) :=
  (crowd.threads[i]?.map (·.returned)).getD []

theorem mem_returned {crowd : Crowd W C} {back : Return C} :
    back ∈ crowd.returned ↔ ∃ i, back ∈ crowd.returnedTo i := by
  unfold returned returnedTo
  rw [List.mem_flatMap]
  constructor
  · rintro ⟨thread, ht, hb⟩
    obtain ⟨i, hi⟩ := List.mem_iff_getElem?.mp ht
    exact ⟨i, by simpa [hi] using hb⟩
  · rintro ⟨i, hb⟩
    cases hi : crowd.threads[i]? with
    | none => simp [hi] at hb
    | some thread => exact ⟨thread, List.mem_of_getElem? hi, by simpa [hi] using hb⟩

/-- Between two points of a run a thread takes one step, and that at the first of them. -/
def Next (i : Nat) (early late : List (Stir W)) : Prop :=
  ∃ between, late = early ++ .tick i :: between ∧ .tick i ∉ between

/-- How a thread came by a handle: it asked for the owner of a key, looked into the cache, once or
twice, and came back, and took no other steps. What it came back with was cached for the owner right
after its last look. -/
structure Trip (parties : Collaborators W T C) (after : List (Stir W) → Crowd W C) (i : Nat)
    (back : Return C) (owner : Address) (client : C) (asked looked left : List (Stir W)) :
    Prop where
  asks : (after asked).job? i = some (.get (.called back.key)) ∧
    (parties.lookup back.key (after asked).state.world).1 = .ok owner
  looks : (Next i asked looked ∧
      (after looked).job? i = some (.get (.resolved back.key owner))) ∨
    ∃ first, Next i asked first ∧ (after first).job? i = some (.get (.resolved back.key owner)) ∧
      (after (first ++ [.tick i])).state.cache.find? owner = none ∧
      Next i first looked ∧ (after looked).job? i = some (.get (.missed back.key owner))
  cached : (after (looked ++ [.tick i])).state.cache.find? owner = some client
  leaves : Next i looked left
  returns : (after (left ++ [.tick i])).returnedTo i = (after left).returnedTo i ++ [back]

theorem after_tick {crowd : Crowd W C} {stirs : List (Stir W)} {i : Nat} {job : Job C}
    (h : (after router parties A crowd stirs).job? i = some job) :
    (after router parties A crowd (stirs ++ [.tick i])).state =
      (router.work parties job (after router parties A crowd stirs).state :
        Outcome (State W C) T C A _).state := by
  rw [after_concat, stir_tick]
  rcases tick_cases (A := A) router parties i (after router parties A crowd stirs) with
    ⟨hnone, -⟩ | ⟨thread, job', jobs, ht, hj, hs⟩
  · rw [hnone] at h
    cases h
  · unfold job? at h
    simp only [ht, Option.bind_some, hj, List.head?_cons, Option.some.injEq] at h
    rw [hs, h]

/-- What a stir can do to a job that is begun: leave it, or reach it by a step of its thread. -/
theorem begun_stir {crowd : Crowd W C} {s : Stir W} {i : Nat} {job : Job C} (htidy : crowd.Tidy)
    (h : (stir router parties s crowd : Outcome (Crowd W C) T C A Unit).state.job? i = some job)
    (hbegun : job.fresh = false) :
    (s ≠ .tick i ∧ crowd.job? i = some job) ∨
    (s = .tick i ∧ ∃ was, crowd.job? i = some was ∧
      (router.work parties was crowd.state : Outcome (State W C) T C A _).answer.jobs.head? =
        some job) := by
  cases s with
  | tick j =>
    rw [stir_tick] at h
    rcases tick_cases (A := A) router parties j crowd with
      ⟨hnone, hs⟩ | ⟨thread, was, jobs, ht, hj, hs⟩
    · rw [hs] at h
      refine Or.inl ⟨?_, h⟩
      rintro ⟨⟩
      rw [hnone] at h
      cases h
    · rw [hs] at h
      unfold job? at *
      by_cases hij : j = i
      · subst hij
        refine Or.inr ⟨rfl, was, by simp [ht, hj], ?_⟩
        have hlt : j < crowd.threads.length := (List.getElem?_eq_some_iff.mp ht).1
        simp only [List.getElem?_set_self hlt, Option.bind_some, List.head?_append] at h
        rcases Option.or_eq_some_iff.mp h with h | ⟨-, h⟩
        · exact h
        · -- what a thread has not begun it would have to begin first
          have := htidy thread (List.mem_of_getElem? ht) job
            (by rw [hj]; exact List.mem_of_mem_head? h)
          rw [hbegun] at this
          cases this
      · left
        rw [List.getElem?_set_ne hij] at h
        exact ⟨by simpa using hij, h⟩
  | join requests =>
    left
    refine ⟨by simp, ?_⟩
    change (crowd.threads ++ [Thread.start requests])[i]?.bind (·.jobs.head?) = some job at h
    unfold job?
    rcases lt_or_ge i crowd.threads.length with hi | hi
    · rwa [List.getElem?_append_left hi] at h
    · rw [List.getElem?_append_right hi] at h
      obtain ⟨thread, ht, hj⟩ := Option.bind_eq_some_iff.mp h
      rw [List.mem_singleton.mp (List.mem_of_getElem? ht)] at hj
      obtain ⟨request, -, rfl⟩ := List.mem_map.mp (List.mem_of_mem_head? hj)
      rw [request.fresh_job] at hbegun
      cases hbegun
  | drift world => exact Or.inl ⟨by simp, h⟩

/-- A job that is begun was reached by the last step of its thread. -/
theorem begun_after {state : State W C} {requests : List (List Request)} {stirs : List (Stir W)}
    {i : Nat} {job : Job C} (hbegun : job.fresh = false)
    (h : (after router parties A (start state requests) stirs).job? i = some job) :
    ∃ before was, Next i before stirs ∧
      (after router parties A (start state requests) before).job? i = some was ∧
      (router.work parties was (after router parties A (start state requests) before).state :
        Outcome (State W C) T C A _).answer.jobs.head? = some job := by
  induction stirs using List.reverseRecOn with
  | nil =>
    obtain ⟨thread, ht, hj⟩ := Option.bind_eq_some_iff.mp h
    obtain ⟨rs, -, rfl⟩ := List.mem_map.mp (List.mem_of_getElem? ht)
    obtain ⟨request, -, rfl⟩ := List.mem_map.mp (List.mem_of_mem_head? hj)
    rw [request.fresh_job] at hbegun
    cases hbegun
  | append_singleton stirs s ih =>
    rw [after_concat] at h
    have htidy : (after router parties A (start state requests) stirs).Tidy :=
      tidy_run router parties stirs (tidy_start state requests)
    rcases begun_stir router parties htidy h hbegun with ⟨hs, h⟩ | ⟨rfl, was, hwas, hhead⟩
    · obtain ⟨before, was, ⟨between, rfl, hbetween⟩, hwas, hhead⟩ := ih h
      refine ⟨before, was, ⟨between ++ [s], by simp, ?_⟩, hwas, hhead⟩
      simp [hbetween, Ne.symm hs]
    · exact ⟨stirs, was, ⟨[], by simp, by simp⟩, hwas, hhead⟩

/-- What a stir adds to the calls that came back to a thread. -/
theorem returned_stir (s : Stir W) (crowd : Crowd W C) (i : Nat) :
    (stir router parties s crowd : Outcome (Crowd W C) T C A Unit).state.returnedTo i =
      crowd.returnedTo i ∨
    (s = .tick i ∧ ∃ was, crowd.job? i = some was ∧
      (stir router parties s crowd : Outcome (Crowd W C) T C A Unit).state.returnedTo i =
        crowd.returnedTo i ++
          (router.work parties was crowd.state : Outcome (State W C) T C A _).answer.returned) := by
  cases s with
  | tick j =>
    rw [stir_tick]
    rcases tick_cases (A := A) router parties j crowd with
      ⟨-, hs⟩ | ⟨thread, was, jobs, ht, hj, hs⟩
    · rw [hs]
      exact Or.inl rfl
    · rw [hs]
      unfold returnedTo job?
      by_cases hij : j = i
      · subst hij
        refine Or.inr ⟨rfl, was, by simp [ht, hj], ?_⟩
        have hlt : j < crowd.threads.length := (List.getElem?_eq_some_iff.mp ht).1
        simp [List.getElem?_set_self hlt, ht]
      · left
        simp [List.getElem?_set_ne hij]
  | join requests =>
    left
    change ((crowd.threads ++ [Thread.start requests])[i]?.map (·.returned)).getD [] = _
    unfold returnedTo
    rcases lt_or_ge i crowd.threads.length with hi | hi
    · rw [List.getElem?_append_left hi]
    · rw [List.getElem?_append_right hi, List.getElem?_eq_none hi]
      cases i - crowd.threads.length <;> rfl
  | drift world => exact Or.inl rfl

/-- A call that came back did so in a step of its thread. -/
theorem returned_after {state : State W C} {requests : List (List Request)}
    {stirs : List (Stir W)} {i : Nat} {back : Return C}
    (h : back ∈ (after router parties A (start state requests) stirs).returnedTo i) :
    ∃ left was, left ++ [.tick i] <+: stirs ∧
      (after router parties A (start state requests) left).job? i = some was ∧
      back ∈ (router.work parties was (after router parties A (start state requests) left).state :
        Outcome (State W C) T C A _).answer.returned ∧
      (after router parties A (start state requests) (left ++ [.tick i])).returnedTo i =
        (after router parties A (start state requests) left).returnedTo i ++
          (router.work parties was (after router parties A (start state requests) left).state :
            Outcome (State W C) T C A _).answer.returned := by
  induction stirs using List.reverseRecOn with
  | nil =>
    unfold after run start returnedTo at h
    simp only [Act.pure_apply, List.getElem?_map] at h
    cases hi : requests[i]? with
    | none => simp [hi] at h
    | some rs => simp [hi, Thread.start] at h
  | append_singleton stirs s ih =>
    have hnow := after_concat (A := A) router parties (start state requests) stirs s
    by_cases hback : back ∈ (after router parties A (start state requests) stirs).returnedTo i
    · obtain ⟨left, was, hpre, hrest⟩ := ih hback
      exact ⟨left, was, hpre.trans (List.prefix_append _ _), hrest⟩
    · rcases returned_stir (A := A) router parties s
        (after router parties A (start state requests) stirs) i with hs | ⟨rfl, was, hwas, hs⟩
      · rw [hnow, hs] at h
        exact absurd h hback
      · rw [hnow, hs] at h
        have h := (List.mem_append.mp h).resolve_left hback
        exact ⟨stirs, was, List.prefix_rfl, hwas, h, by rw [hnow, hs]⟩

/-- Each call that came back with a handle made its trip to the cache. -/
theorem trip {state : State W C} {requests : List (List Request)} {stirs : List (Stir W)}
    {back : Return C} {client : C}
    (h : back ∈ (after router parties A (start state requests) stirs).returned)
    (hok : back.result = .ok client) :
    ∃ owner i asked looked left, back.owner = some owner ∧ left ++ [.tick i] <+: stirs ∧
      Trip parties (after router parties A (start state requests)) i back owner client
        asked looked left := by
  obtain ⟨i, h⟩ := mem_returned.mp h
  obtain ⟨left, was, hpre, hwas, hback, hreturn⟩ := returned_after router parties h
  obtain ⟨⟨entry, rfl, hentry⟩, hsingle⟩ := router.returned_leaving parties hback hok
  rw [hsingle] at hreturn
  obtain ⟨looked, look, hleaves, hlook, hhead⟩ := begun_after router parties rfl hwas
  have hvisit := router.came_from parties hhead
  cases howner : back.owner with
  | none =>
    rw [howner] at hvisit
    exact hvisit.elim
  | some owner =>
    rw [howner] at hvisit
    obtain ⟨hlooks, hcached⟩ := hvisit
    rw [hentry, ← after_tick router parties hlook] at hcached
    -- the steps before it are found one by one, each from the point it led to
    rcases hlooks with rfl | rfl
    · obtain ⟨asked, ask, hnext, hask, hhead⟩ := begun_after router parties rfl hlook
      obtain ⟨rfl, howned⟩ := router.came_from parties hhead
      exact ⟨owner, i, asked, looked, left, rfl, hpre, ⟨hask, howned⟩,
        Or.inl ⟨hnext, hlook⟩, hcached, hleaves, hreturn⟩
    · obtain ⟨first, look, hnext, hfirst, hhead⟩ := begun_after router parties rfl hlook
      obtain ⟨rfl, hgap⟩ := router.came_from parties hhead
      rw [← after_tick router parties hfirst] at hgap
      obtain ⟨asked, ask, hnext', hask, hhead⟩ := begun_after router parties rfl hfirst
      obtain ⟨rfl, howned⟩ := router.came_from parties hhead
      exact ⟨owner, i, asked, looked, left, rfl, hpre, ⟨hask, howned⟩,
        Or.inr ⟨first, hnext', hfirst, hgap, hnext, hlook⟩, hcached, hleaves, hreturn⟩

/-! ## One handle at a time -/

/-- Without a removal all that was ever cached at an address still is. -/
theorem kept {crowd : Crowd W C} {early stirs : List (Stir W)} {address : Address} {client : C}
    (hpre : early <+: stirs)
    (hkept : ∀ v ∈ (run router parties stirs crowd : Outcome _ T C A Unit).trace.visits,
      v.isRemoval address = false)
    (h : (after router parties A crowd early).state.cache.find? address = some client) :
    (after router parties A crowd stirs).state.cache.find? address = some client := by
  obtain ⟨late, rfl⟩ := hpre
  unfold after at *
  rw [run_append] at hkept ⊢
  refine (Leads.stays (faithful_run router parties late _) h fun v hv => ?_).1
  exact hkept v (List.mem_append_right _ hv)

/-- However the steps of calls, removals and events fall between one another, and whatever the
collaborators answer: builds and removals of an address take turns, a handle is cached there
exactly if the last turn was a build, and a call comes back with what was cached for its owner
right after its last look. So without a removal all calls for an address get one handle, and it is
built once. The builds are those that the log tells of. -/
theorem each_address_has_one_handle_at_a_time (world : W) (requests : List (List Request))
    (stirs : List (Stir W)) (address : Address) :
    let crowd : Crowd W C := start ⟨world, .empty⟩ requests
    let o : Outcome (Crowd W C) T C A Unit := run router parties stirs crowd
    let past := o.trace.visits
    o.trace.log.countP (·.creates address) = Leads.builds address past ∧
    Leads.Alternate address false (Leads.turns address past) ∧
    Leads.builds address past = Leads.removals address past +
      (if o.state.state.cache.contains address then 1 else 0) ∧
    (∀ back ∈ o.state.returned, ∀ client, back.result = .ok client →
      ∃ owner i asked looked left, back.owner = some owner ∧ left ++ [.tick i] <+: stirs ∧
        Trip parties (after router parties A crowd) i back owner client asked looked left) ∧
    ((∀ v ∈ past, v.isRemoval address = false) →
      Leads.builds address past ≤ 1 ∧
      ∀ back ∈ o.state.returned, ∀ client, back.owner = some address →
        back.result = .ok client → o.state.state.cache.find? address = some client) := by
  intro crowd o past
  have h : Leads .empty past o.state.state.cache := faithful_run router parties stirs crowd
  have hempty : (Cache.empty : Cache C).contains address = false := rfl
  have hbalance := h.builds_balance_removals address
  rw [hempty, if_neg Bool.false_ne_true, Nat.add_zero] at hbalance
  refine ⟨log_tells_builds router parties stirs crowd address, h.alternate address, hbalance,
    fun back hback client => trip router parties hback, ?_⟩
  intro hkept
  constructor
  · have hnone : Leads.removals address past = 0 :=
      List.countP_eq_zero.mpr fun v hv => by simp [hkept v hv]
    rw [hbalance, hnone, Nat.zero_add]
    cases o.state.state.cache.contains address <;> decide
  · intro back hback client howner hok
    obtain ⟨owner, i, asked, looked, left, howner', hpre, htrip⟩ :=
      trip router parties hback hok
    rw [howner] at howner'
    cases howner'
    refine kept router parties ?_ hkept htrip.cached
    obtain ⟨between, rfl, -⟩ := htrip.leaves
    exact List.IsPrefix.trans ⟨between ++ [.tick i], by simp⟩ hpre

/-- Two callers both miss before the first of them builds. -/
theorem two_callers_share_one_handle :
    let router : Router := ⟨"svc", true⟩
    let cluster := Cluster.start "a" "svc" [("k", "b")]
    let stirs : List (Stir Cluster) := [0, 1, 0, 1, 0, 1, 1, 0].map .tick
    let o : Outcome (Crowd Cluster Handle) Wire Handle Empty Unit :=
      run router Cluster.parties stirs (start ⟨cluster, .empty⟩ [[.get "k"], [.get "k"]])
    o.trace.visits = [.missed "b", .missed "b", .built "b" (.remote "svc" "b" 1),
      .found .recheck "b" (.remote "svc" "b" 1)] ∧
    o.state.returned.map (·.result.toOption) =
      [some (.remote "svc" "b" 1), some (.remote "svc" "b" 1)] ∧
    Leads.builds "b" o.trace.visits ≤ 1 := by
  intro router cluster stirs o
  have hpast : o.trace.visits = [.missed "b", .missed "b", .built "b" (.remote "svc" "b" 1),
      .found .recheck "b" (.remote "svc" "b" 1)] := by decide +kernel
  have hkept : ∀ v ∈ o.trace.visits, v.isRemoval "b" = false := by
    rw [hpast]
    decide
  have h := each_address_has_one_handle_at_a_time (A := Empty) router Cluster.parties cluster
    [[.get "k"], [.get "k"]] stirs "b"
  have hback : o.state.returned.map (·.result.toOption) =
      [some (.remote "svc" "b" 1), some (.remote "svc" "b" 1)] := by decide +kernel
  exact ⟨hpast, hback, (h.2.2.2.2 hkept).1⟩

end Crowd

end KeyRoute
