-- What is watched of a router has no part in what it does. Two routers that are bound to the same
-- service do the same, call for call and line for line, whether or not they have metrics enabled;
-- what they would count is the same, and each counts it or does not. So nothing is learned from a
-- router that has metrics disabled, not even by the metrics that it shares with others.
import Mathlib.Data.List.Forall2
import KeyRoute.Proofs.Settling

namespace KeyRoute

variable {S W T C A N : Type} {α β : Type}

/-! ## Actions of two routers -/

/-- The outcomes of two routers are the same but for the metrics, and there both make what they do
of the same moves. -/
structure Outcome.Alike (a b : Router) (R : S → S → Prop) (o o' : Outcome S T C A α) : Prop where
  answer : o.answer = o'.answer
  state : R o.state o'.state
  calls : o.trace.calls = o'.trace.calls
  log : o.trace.log = o'.trace.log
  visits : o.trace.visits = o'.trace.visits
  moves : ∃ moves, o.trace.moves = a.made moves ∧ o'.trace.moves = b.made moves

/-- From states that correspond, two actions come to the same but for the metrics. -/
def Act.Alike (a b : Router) (R : S → S → Prop) (f g : Act S T C A α) : Prop :=
  ∀ s s', R s s' → (f s).Alike a b R (g s')

theorem Router.made_append (router : Router) (moves more : List Move) :
    router.made (moves ++ more) = router.made moves ++ router.made more := by
  unfold made
  cases router.metricsEnabled <;> rfl

theorem Router.made_nil (router : Router) : router.made [] = [] := by
  unfold made
  cases router.metricsEnabled <;> rfl

namespace Act

variable {a b : Router} {R : S → S → Prop}

theorem alike_bind {f f' : Act S T C A α} {g g' : α → Act S T C A β} (h : f.Alike a b R f')
    (h' : ∀ answer, (g answer).Alike a b R (g' answer)) : (f >>= g).Alike a b R (f' >>= g') := by
  intro s s' hs
  obtain ⟨answer, state, calls, log, visits, moves, hm, hm'⟩ := h s s' hs
  obtain ⟨answer', state', calls', log', visits', more, hn, hn'⟩ :=
    h' (f s).answer (f s).state (f' s').state state
  simp only [bind_apply]
  rw [← answer]
  refine ⟨answer', state', ?_, ?_, ?_, moves ++ more, ?_, ?_⟩
  · simp only [Trace.calls_append, calls, calls']
  · simp only [Trace.log_append, log, log']
  · simp only [Trace.visits_append, visits, visits']
  · simp only [Trace.moves_append, hm, hn, Router.made_append]
  · simp only [Trace.moves_append, hm', hn', Router.made_append]

theorem alike_of_unmoved {f g : Act S T C A α} (h : ∀ s s', R s s' →
    (f s).answer = (g s').answer ∧ R (f s).state (g s').state ∧ (f s).trace = (g s').trace ∧
      (f s).trace.moves = []) : f.Alike a b R g := by
  intro s s' hs
  obtain ⟨answer, state, trace, hnone⟩ := h s s' hs
  exact ⟨answer, state, by rw [trace], by rw [trace], by rw [trace], [],
    hnone.trans a.made_nil.symm, (trace ▸ hnone).trans b.made_nil.symm⟩

theorem alike_pure (answer : α) : (pure answer : Act S T C A α).Alike a b R (pure answer) :=
  alike_of_unmoved fun _ _ hs => ⟨rfl, hs, rfl, rfl⟩

theorem alike_note (notices : List Notice) :
    (note notices : Act S T C A Unit).Alike a b R (note notices) :=
  alike_of_unmoved fun _ _ hs => ⟨rfl, hs, rfl, rfl⟩

/-- An action of both that moves no metrics. -/
theorem alike_same {f : Act S T C A α} (h : ∀ s, (f s).trace.moves = []) :
    f.Alike a b Eq f := by
  apply alike_of_unmoved
  rintro s _ rfl
  exact ⟨rfl, rfl, rfl, h s⟩

end Act

namespace Router

variable {a b : Router}

/-- The actions on the state of two routers that come to the same but for the metrics. -/
abbrev Alike (a b : Router) (f g : Act (State W C) T C A α) : Prop := f.Alike a b Eq g

theorem alike_count (moves : List Move) :
    Alike a b (a.count moves : Act (State W C) T C A Unit) (b.count moves) := by
  rintro s s' rfl
  exact ⟨rfl, rfl, rfl, rfl, rfl, moves, rfl, rfl⟩

theorem alike_failed (stage : Stage) (notice : Notice) (e : RouteError) :
    Alike a b (a.failed stage notice e : Act (State W C) T C A (Except RouteError α))
      (b.failed stage notice e) := by
  unfold failed
  refine Act.alike_bind (Act.alike_same fun _ => rfl) fun _ => ?_
  exact Act.alike_bind (alike_count _) fun _ => Act.alike_pure _

section

variable (parties : Collaborators W T C)

theorem alike_resolve (key : String) {during during' : Act (State W C) T C A Unit}
    (h : Alike a b during during') :
    Alike a b (a.resolve parties key during) (b.resolve parties key during') := by
  unfold resolve
  refine Act.alike_bind (Act.alike_same fun _ => rfl) fun _ => ?_
  refine Act.alike_bind h fun _ => ?_
  refine Act.alike_bind (Act.alike_same fun _ => rfl) ?_
  rintro (e | owner)
  · exact alike_failed _ _ _
  · exact Act.alike_pure _

theorem alike_read (owner : Address) :
    Alike a b (read owner : Act (State W C) T C A (Option (Entry C))) (read owner) := by
  refine Act.alike_same fun s => ?_
  cases hc : s.cache.find? owner with
  | some client => rw [read_some hc]
  | none => rw [read_none hc]

theorem alike_leave (entry : Entry C) :
    Alike a b (a.leave entry : Act (State W C) T C A C) (b.leave entry) := by
  unfold leave
  exact Act.alike_bind (alike_count _) fun _ => Act.alike_pure _

theorem alike_probe (owner : Address) :
    Alike a b (a.probe owner : Act (State W C) T C A (Option C)) (b.probe owner) := by
  unfold probe
  apply Act.alike_bind (alike_read owner)
  rintro (_ | entry)
  · exact Act.alike_pure _
  · exact Act.alike_bind (alike_leave entry) fun _ => Act.alike_pure _

variable (hservice : a.serviceName = b.serviceName)

include hservice

theorem alike_make (owner me : Address) :
    Alike a b (a.make parties owner me : Act (State W C) T C A (Except RouteError C))
      (b.make parties owner me) := by
  have hmake : (a.make parties owner me : Act (State W C) T C A _) = b.make parties owner me := by
    unfold make
    rw [hservice]
  rw [hmake]
  exact Act.alike_same fun s => (b.make_quiet parties owner me s).2.2.1

theorem alike_build (owner : Address) :
    Alike a b (a.build parties owner : Act (State W C) T C A (Except RouteError C))
      (b.build parties owner) := by
  unfold build
  refine Act.alike_bind (Act.alike_same fun _ => rfl) ?_
  rintro (e | me)
  · exact alike_failed _ _ _
  · apply Act.alike_bind (alike_make parties hservice owner me)
    rintro (e | client)
    · exact alike_failed _ _ _
    · refine Act.alike_bind (Act.alike_same fun _ => rfl) fun _ => ?_
      exact Act.alike_bind (alike_count _) fun _ => Act.alike_pure _

theorem alike_enter (owner : Address) :
    Alike a b (a.enter parties owner : Act (State W C) T C A (Except RouteError (Entry C)))
      (b.enter parties owner) := by
  unfold enter
  refine Act.alike_bind (Act.alike_same fun _ => rfl) ?_
  rintro (_ | client)
  · apply Act.alike_bind (alike_build parties hservice owner)
    rintro (e | client)
    · exact Act.alike_bind (Act.alike_same fun _ => rfl) fun _ => Act.alike_pure _
    · refine Act.alike_bind (Act.alike_same fun _ => rfl) fun _ => ?_
      refine Act.alike_bind (alike_count _) fun _ => ?_
      exact Act.alike_bind (Act.alike_same fun _ => rfl) fun _ => Act.alike_pure _
  · exact Act.alike_bind (Act.alike_same fun _ => rfl) fun _ => Act.alike_pure _

theorem alike_get (key : String) {during during' : Act (State W C) T C A Unit}
    (h : Alike a b during during') :
    Alike a b (a.get parties key during) (b.get parties key during') := by
  unfold get
  apply Act.alike_bind (alike_resolve parties key h)
  rintro (e | owner)
  · exact Act.alike_pure _
  · apply Act.alike_bind (alike_probe owner)
    rintro (_ | client)
    · unfold ensure
      apply Act.alike_bind (alike_enter parties hservice owner)
      rintro (e | entry)
      · exact Act.alike_pure _
      · exact Act.alike_bind (alike_leave entry) fun _ => Act.alike_pure _
    · exact Act.alike_pure _

end

theorem alike_remove (address : Address) :
    Alike a b (a.remove address : Act (State W C) T C A Bool) (b.remove address) := by
  unfold remove withdraw report
  apply Act.alike_bind
  · refine Act.alike_bind (Act.alike_same fun _ => rfl) fun there => ?_
    split
    · refine Act.alike_bind (Act.alike_same fun _ => rfl) fun _ => ?_
      refine Act.alike_bind (alike_count _) fun _ => ?_
      exact Act.alike_bind (Act.alike_same fun _ => rfl) fun _ => Act.alike_pure _
    · exact Act.alike_bind (Act.alike_same fun _ => rfl) fun _ => Act.alike_pure _
  · intro there
    dsimp only
    split
    · refine Act.alike_bind ?_ fun _ => Act.alike_pure _
      exact Act.alike_bind (alike_count _) fun _ => Act.alike_same fun _ => rfl
    · exact Act.alike_pure _

theorem alike_applyBatch (batch : List Change) :
    Alike a b (a.applyBatch batch : Act (State W C) T C A Unit) (b.applyBatch batch) := by
  induction batch with
  | nil => exact Act.alike_pure _
  | cons change batch ih =>
    refine Act.alike_bind ?_ fun _ => ih
    apply Act.alike_bind (Act.alike_same fun s => by rw [judge_apply])
    rintro (_ | address)
    · exact Act.alike_pure _
    · exact Act.alike_bind (alike_remove address) fun _ => Act.alike_pure _

theorem alike_handle (event : Event) :
    Alike a b (a.handle event : Act (State W C) T C A Unit) (b.handle event) := by
  cases event with
  | changes batch => exact alike_applyBatch batch
  | announcement content => exact Act.alike_same fun _ => rfl

theorem alike_handleAll (events : List Event) :
    Alike a b (a.handleAll events : Act (State W C) T C A Unit) (b.handleAll events) := by
  induction events with
  | nil => exact Act.alike_pure _
  | cons event events ih => exact Act.alike_bind (alike_handle event) fun _ => ih

section

variable (parties : Collaborators W T C)

mutual

theorem alike_run (hservice : a.serviceName = b.serviceName) (op : Op N) :
    Alike a b (a.run parties op : Act (State W C) T C (Answer C N) (Answer C N))
      (b.run parties op) := by
  cases op with
  | get key during =>
    exact Act.alike_bind (alike_get parties hservice key (alike_runDuring hservice during))
      fun _ => Act.alike_pure _
  | remove address => exact Act.alike_bind (alike_remove address) fun _ => Act.alike_pure _
  | handle events => exact Act.alike_bind (alike_handleAll events) fun _ => Act.alike_pure _
  | contains | size | addresses =>
    exact Act.alike_bind (Act.alike_same fun _ => rfl) fun _ => Act.alike_pure _
  | service =>
    simp only [run, hservice]
    exact Act.alike_pure _
  | remark content => exact Act.alike_pure _

theorem alike_runDuring (hservice : a.serviceName = b.serviceName) (ops : List (Op N)) :
    Alike a b (a.runDuring parties ops : Act (State W C) T C (Answer C N) Unit)
      (b.runDuring parties ops) := by
  cases ops with
  | nil => exact Act.alike_pure _
  | cons op ops =>
    apply Act.alike_bind (alike_run hservice op)
    intro answer
    exact Act.alike_bind (Act.alike_same fun _ => rfl) fun _ => alike_runDuring hservice ops

end

end

end Router

/-! ## Routers with their listeners -/

namespace Station

variable {a b : Router}

/-- Two stations with the routers `a` and `b` that are the same in all else. -/
def Twin (a b : Router) (s s' : Station W C) : Prop :=
  ∃ station : Station W C, s = { station with router := a } ∧ s' = { station with router := b }

theorem twin {s s' : Station W C} (state : s.state = s'.state)
    (listener : s.listener = s'.listener) (joinable : s.joinable = s'.joinable) :
    Twin s.router s'.router s s' := by
  refine ⟨s, rfl, ?_⟩
  rw [state, listener, joinable]

/-- The actions on two stations that come to the same but for the metrics. -/
abbrev Alike (a b : Router) (f g : Act (Station W C) T C A α) : Prop := f.Alike a b (Twin a b) g

theorem alike_onState {f : Router → Act (State W C) T C A α}
    (h : Router.Alike a b (f a) (f b)) : Alike a b (onState f) (onState f) := by
  rintro _ _ ⟨station, rfl, rfl⟩
  obtain ⟨answer, state, calls, log, visits, moves⟩ := h station.state station.state rfl
  refine ⟨answer, ⟨{ station with state := (f a station.state).state }, rfl, ?_⟩, calls, log,
    visits, moves⟩
  simp only [onState, state]

theorem alike_onListener (f : Listener → Listener × α) :
    Alike a b (onListener f : Act (Station W C) T C A α) (onListener f) := by
  apply Act.alike_of_unmoved
  rintro _ _ ⟨station, rfl, rfl⟩
  exact ⟨rfl, ⟨{ station with listener := (f station.listener).1 }, rfl, rfl⟩, rfl, rfl⟩

theorem alike_follow (emission : Emission) :
    Alike a b (follow emission : Act (Station W C) T C A Unit) (follow emission) := by
  cases emission with
  | started | exited => exact Act.alike_note _
  | handled event =>
    exact alike_onState (f := fun router => router.handle event) (Router.alike_handle event)

theorem alike_followAll (emissions : List Emission) :
    Alike a b (followAll emissions : Act (Station W C) T C A Unit) (followAll emissions) := by
  induction emissions with
  | nil => exact Act.alike_pure _
  | cons emission emissions ih => exact Act.alike_bind (alike_follow emission) fun _ => ih

theorem alike_ifLive {action : Act (Station W C) T C A (Reply C N)} (h : Alike a b action action) :
    Alike a b (ifLive action) (ifLive action) := by
  unfold ifLive
  apply Act.alike_bind
  · apply Act.alike_of_unmoved
    rintro _ _ ⟨station, rfl, rfl⟩
    exact ⟨rfl, ⟨station, rfl, rfl⟩, rfl, rfl⟩
  · intro live
    cases live with
    | true => exact h
    | false => exact Act.alike_pure _

theorem alike_drop : Alike a b (drop : Act (Station W C) T C A Unit) drop := by
  unfold drop
  apply Act.alike_bind
  · apply alike_onState
    rintro state _ rfl
    exact ⟨rfl, rfl, rfl, rfl, rfl, [⟨.cachedClients, -state.cache.size⟩], rfl, rfl⟩
  · exact fun _ => alike_onListener _

/-- Whatever happens at two routers that are bound to the same service, it comes to the same but
for the metrics. -/
theorem alike_act (parties : Collaborators W T C) (hservice : a.serviceName = b.serviceName)
    (d : Deed W N) : Alike a b (act parties d) (act parties d) := by
  cases d with
  | operate op =>
    apply alike_ifLive
    exact Act.alike_bind (alike_onState (Router.alike_run parties hservice op))
      fun _ => Act.alike_pure _
  | drift world =>
    refine Act.alike_bind (alike_onState ?_) fun _ => Act.alike_pure _
    exact Act.alike_same fun _ => rfl
  | send event => exact Act.alike_bind (alike_onListener _) fun _ => Act.alike_pure _
  | listen turns =>
    refine Act.alike_bind ?_ fun _ => Act.alike_pure _
    exact Act.alike_bind (alike_onListener _) alike_followAll
  | close => exact Act.alike_bind (alike_onListener _) fun _ => Act.alike_pure _
  | signal =>
    exact alike_ifLive (Act.alike_bind (alike_onListener _) fun _ => Act.alike_pure _)
  | drop => exact alike_ifLive (Act.alike_bind alike_drop fun _ => Act.alike_pure _)


/-- A router stays what it is. -/
theorem router_act (parties : Collaborators W T C) (d : Deed W N) (station : Station W C) :
    (act parties d station).state.router = station.router := by
  obtain ⟨next, hnext, -⟩ := (alike_act parties rfl d _ _ (twin rfl rfl rfl)).state
  rw [hnext]

/-- A router that has metrics disabled moves none, whatever happens at it. -/
theorem moves_act_of_disabled (parties : Collaborators W T C) (d : Deed W N)
    {station : Station W C} (h : station.router.metricsEnabled = false) :
    (act parties d station).trace.moves = [] := by
  obtain ⟨moves, hmoves, -⟩ := (alike_act parties rfl d _ _ (twin rfl rfl rfl)).moves
  rw [hmoves, Router.made, h]
  rfl

end Station

/-! ## Sites -/

namespace Site

/-- Two routers with the same collaborators, for the same service, that are the same but for what
they count. -/
structure SameRouting (x y : Branch W T C) : Prop where
  parties : x.parties = y.parties
  service : x.station.router.serviceName = y.station.router.serviceName
  twin : Station.Twin x.station.router y.station.router x.station y.station

/-- What was to be seen of two turns is the same but for the metrics. -/
structure Report.SameSight (r r' : Report T C N) : Prop where
  reply : r.reply = r'.reply
  calls : r.trace.calls = r'.trace.calls
  log : r.trace.log = r'.trace.log
  cache : r.cache = r'.cache

theorem SameRouting.cache {x y : Branch W T C} (h : SameRouting x y) :
    x.station.live = y.station.live ∧ x.station.state = y.station.state := by
  obtain ⟨station, hx, hy⟩ := h.twin
  rw [hx, hy]
  exact ⟨rfl, rfl⟩

theorem Turn.Akin.refl (t : Turn W T C N) : t.Akin t := by
  cases t with
  | found parties config world capacity => exact .found parties world capacity rfl
  | deed d => exact .deed d

theorem act_akin {a b : Site W T C} (h : Paired SameRouting a b) (n : Nat) {t t' : Turn W T C N}
    (ht : t.Akin t') :
    let o := act n t a
    let o' := act n t' b
    Paired SameRouting o.state o'.state ∧ o.answer = o'.answer ∧
      o.trace.calls = o'.trace.calls ∧ o.trace.log = o'.trace.log := by
  cases ht with
  | found parties world capacity hservice =>
    rcases h n with ⟨ha, hb⟩ | ⟨x, y, ha, hb, hxy⟩
    · simp only [act, ha, hb, Station.start, Router.start, hservice, and_self, and_true]
      exact h.put n ⟨rfl, rfl, Station.twin rfl rfl rfl⟩
    · simpa only [act, ha, hb, and_self, and_true] using h
  | deed d =>
    rcases h n with ⟨ha, hb⟩ | ⟨x, y, ha, hb, hxy⟩
    · simpa only [act, ha, hb, and_self, and_true] using h
    · have hacted := Station.alike_act (N := N) x.parties hxy.service d _ _ hxy.twin
      simp only [act, ha, hb, ← hxy.parties]
      refine ⟨h.put n ⟨rfl, ?_, ?_⟩, hacted.answer, hacted.calls, hacted.log⟩
      · simp only [Station.router_act, hxy.service]
      · simp only [Station.router_act]
        exact hacted.state

theorem run_akin {a b : Site W T C} (h : Paired SameRouting a b)
    {turns turns' : List (Nat × Turn W T C N)}
    (hturns : List.Forall₂ (fun x y => x.1 = y.1 ∧ x.2.Akin y.2) turns turns') :
    List.Forall₂ Report.SameSight (a.run turns).2 (b.run turns').2 := by
  induction hturns generalizing a b with
  | nil => exact .nil
  | @cons x y turns turns' hxy hturns ih =>
    obtain ⟨n, t⟩ := x
    obtain ⟨m, t'⟩ := y
    obtain ⟨rfl, ht⟩ : n = m ∧ t.Akin t' := hxy
    obtain ⟨hpaired, hreply, hcalls, hlog⟩ := act_akin h n ht
    exact .cons ⟨hreply, hcalls, hlog, hpaired.cache (fun _ _ => SameRouting.cache) n⟩
      (ih hpaired)

/-! ### The metrics -/

theorem step_elsewhere (site : Site W T C) {n m : Nat} (hm : m ≠ n) (t : Turn W T C N) :
    (site.step n t).1 m = site m := by
  cases t with
  | found parties config world capacity =>
    simp only [step, act]
    cases hn : site n with
    | none => simp only [put, hm, if_false]
    | some x => rfl
  | deed d =>
    simp only [step, act]
    cases hn : site n with
    | none => rfl
    | some x => simp only [put, hm, if_false]

/-- A turn sees only what is in its place. -/
theorem step_congr {a b : Site W T C} {n : Nat} (h : a n = b n) (t : Turn W T C N) :
    (a.step n t).1 n = (b.step n t).1 n ∧ (a.step n t).2 = (b.step n t).2 := by
  cases t with
  | found parties config world capacity =>
    simp only [step, act, ← h]
    cases hn : a n with
    | none => simp only [cache?, put, if_true, and_self]
    | some x => simp only [cache?, ← h, hn, and_self]
  | deed d =>
    simp only [step, act, ← h]
    cases hn : a n with
    | none => simp only [cache?, ← h, hn, and_self]
    | some x => simp only [cache?, put, if_true, and_self]

/-- A router that counts goes on to do so. -/
theorem counts_step {site : Site W T C} {m : Nat} (h : site.counts m = true) (n : Nat)
    (t : Turn W T C N) : (site.step n t).1.counts m = true := by
  by_cases hm : m = n
  · subst hm
    unfold counts at h ⊢
    cases hn : site m with
    | none =>
      rw [hn] at h
      cases h
    | some x =>
      rw [hn] at h
      cases t with
      | found parties config world capacity => simpa only [step, act, hn] using h
      | deed d =>
        simpa only [step, act, hn, put, if_true, Option.any_some, Station.router_act] using h
  · unfold counts at h ⊢
    rwa [step_elsewhere site hm t]

theorem counts_run {site : Site W T C} {m : Nat} (h : site.counts m = true)
    (turns : List (Nat × Turn W T C N)) : (site.run turns).1.counts m = true := by
  induction turns generalizing site with
  | nil => exact h
  | cons turn turns ih => exact ih (counts_step h turn.1 turn.2)

theorem moves_step_of_not_counts {site : Site W T C} {n : Nat} {t : Turn W T C N}
    (h : (site.step n t).1.counts n = false) : (site.step n t).2.trace.moves = [] := by
  cases t with
  | found parties config world capacity =>
    simp only [step, act]
    cases hn : site n <;> rfl
  | deed d =>
    cases hn : site n with
    | none =>
      simp only [step, act, hn]
      rfl
    | some x =>
      simp only [step, act, hn, counts, put, if_true, Option.any_some, Station.router_act] at h ⊢
      exact Station.moves_act_of_disabled x.parties d h

/-- If the turns at some places move no metrics, they might as well not have been. -/
theorem moved_filter {a b : Site W T C} (keep : Nat → Bool) (turns : List (Nat × Turn W T C N))
    (h : ∀ n, keep n = true → a n = b n)
    (hcounts : ∀ n, keep n = false → (a.run turns).1.counts n = false) :
    moved (a.run turns).2 = moved (b.run (turns.filter fun turn => keep turn.1)).2 := by
  induction turns generalizing a b with
  | nil => rfl
  | cons turn turns ih =>
    obtain ⟨n, t⟩ := turn
    cases hn : keep n with
    | true =>
      obtain ⟨hplace, hreport⟩ := step_congr (h n hn) t
      have hrest := ih (a := (a.step n t).1) (b := (b.step n t).1) ?_ hcounts
      · simp only [List.filter_cons, hn, if_true, run, moved, List.flatMap_cons, hreport] at hrest ⊢
        rw [hrest]
      · intro m hm
        by_cases hmn : m = n
        · rw [hmn, hplace]
        · rw [step_elsewhere a hmn t, step_elsewhere b hmn t, h m hm]
    | false =>
      -- A router that counts stays in its place, so where none does at the end, none ever did.
      have hnow : (a.step n t).1.counts n = false := by
        rw [← Bool.not_eq_true]
        intro hcount
        have hlast := hcounts n hn
        rw [run, counts_run hcount] at hlast
        cases hlast
      have hrest := ih (a := (a.step n t).1) (b := b) ?_ hcounts
      · simp only [List.filter_cons, hn, Bool.false_eq_true, if_false, run, moved,
          List.flatMap_cons, moves_step_of_not_counts hnow, List.nil_append] at hrest ⊢
        exact hrest
      · intro m hm
        have hmn : m ≠ n := by
          rintro rfl
          rw [hn] at hm
          cases hm
        rw [step_elsewhere a hmn t, h m hm]

/-! ### Logs -/

theorem logged_under (filter : Filter) (reports : List (Report T C N)) :
    logged (reports.map (Report.under filter)) = (logged reports).filter filter.passes := by
  induction reports with
  | nil => rfl
  | cons report reports ih =>
    simp only [logged, List.map_cons, List.flatMap_cons, List.filter_append] at ih ⊢
    rw [ih]
    rfl

/-! ### What is watched -/

theorem map_of_sameSight {f g : Report T C N → β} {reports reports' : List (Report T C N)}
    (h : List.Forall₂ Report.SameSight reports reports')
    (hfg : ∀ r r', r.SameSight r' → f r = g r') : reports.map f = reports'.map g := by
  rw [← List.forall₂_eq_eq_eq, List.forall₂_map_left_iff, List.forall₂_map_right_iff]
  exact h.imp hfg

/-- What is watched of routers changes nothing in what they do. Take two runs with the same turns at
the same places, where the routers may have metrics enabled or not and programs may log on other
levels, each run under a log filter of its own: all turns give back the same, make the same calls
and leave the same in the cache, and they leave the same log if the filters are the same. A filter
leaves of the whole log those lines that it lets through, in their order. A router that has metrics
disabled moves none of them, whatever happens at it; and so the metrics are moved as they would be
by the turns of the other routers alone. -/
theorem what_is_watched_changes_nothing {turns turns' : List (Nat × Turn W T C N)}
    (h : List.Forall₂ (fun x y => x.1 = y.1 ∧ x.2.Akin y.2) turns turns') :
    (∀ filter filter', (watch filter turns).map Report.routing =
      (watch filter' turns').map Report.routing) ∧
    (∀ filter, (watch filter turns).map (·.trace.log) =
      (watch filter turns').map (·.trace.log)) ∧
    (∀ filter, logged (watch filter turns) =
      (logged ((empty : Site W T C).run turns).2).filter filter.passes) ∧
    (∀ (site : Site W T C) n branch, site n = some branch →
      branch.station.router.metricsEnabled = false →
      ∀ t : Turn W T C N, (site.step n t).2.trace.moves = []) ∧
    (let whole := (empty : Site W T C).run turns
    moved whole.2 =
      moved ((empty : Site W T C).run (turns.filter fun turn => whole.1.counts turn.1)).2) := by
  have hsame := run_akin (a := (empty : Site W T C)) (b := empty)
    (fun _ => .inl ⟨rfl, rfl⟩) h
  refine ⟨fun filter filter' => ?_, fun filter => ?_, fun filter => logged_under filter _, ?_, ?_⟩
  · unfold watch
    rw [List.map_map, List.map_map]
    apply map_of_sameSight hsame
    intro r r' hr
    simp only [Function.comp_apply, Report.routing, Report.under, hr.reply, hr.calls, hr.cache]
  · unfold watch
    rw [List.map_map, List.map_map]
    apply map_of_sameSight hsame
    intro r r' hr
    simp only [Function.comp_apply, Report.under, hr.log]
  · intro site n branch hn hdisabled t
    apply moves_step_of_not_counts
    cases t with
    | found parties config world capacity =>
      simpa only [step, act, hn, counts, Option.any_some] using hdisabled
    | deed d =>
      simpa only [step, act, hn, counts, put, if_true, Option.any_some, Station.router_act]
        using hdisabled
  · exact moved_filter _ turns (fun _ _ => rfl) fun n hn => hn

/-- One router counts and one does not, or the other way round. -/
theorem one_counts_and_one_does_not :
    let cluster := Cluster.start "a" "svc" [("k", "b")]
    let found (n : Nat) (metricsEnabled : Bool) (logLevel : String) :
        Nat × Turn Cluster Wire Handle Empty :=
      (n, .found Cluster.parties ⟨none, metricsEnabled, logLevel⟩ cluster 1)
    let deeds : List (Nat × Turn Cluster Wire Handle Empty) :=
      [(0, .deed (.operate (.get "k" []))), (1, .deed (.operate (.get "k" []))),
        (1, .deed (.send (.changes [.new "b" .faulty]))), (1, .deed (.listen [.start, .receive])),
        (1, .deed .drop), (0, .deed .drop)]
    let turns := found 0 true "info" :: found 1 false "info" :: deeds
    let turns' := found 0 false "debug" :: found 1 true "off" :: deeds
    (watch ⟨[.everything]⟩ turns).map Report.routing = (watch ⟨[]⟩ turns').map Report.routing ∧
    moved ((empty : Site Cluster Wire Handle).run turns).2 =
      [Sample.up (.created .remote), Sample.up .cachedClients, Sample.up .misses,
        Sample.down .cachedClients] ∧
    moved ((empty : Site Cluster Wire Handle).run turns').2 =
      [Sample.up (.created .remote), Sample.up .cachedClients, Sample.up .misses,
        Sample.down .cachedClients, Sample.up .evictions, ⟨.cachedClients, 0⟩] := by
  intro cluster found deeds turns turns'
  have hdeeds : List.Forall₂ (fun x y => x.1 = y.1 ∧ x.2.Akin y.2) deeds deeds :=
    List.forall₂_same.mpr fun _ _ => ⟨rfl, .refl _⟩
  have h := what_is_watched_changes_nothing
    (.cons ⟨rfl, .found Cluster.parties cluster 1 rfl⟩
      (.cons ⟨rfl, .found Cluster.parties cluster 1 rfl⟩ hdeeds) :
      List.Forall₂ (fun x y => x.1 = y.1 ∧ x.2.Akin y.2) turns turns')
  exact ⟨h.1 ⟨[.everything]⟩ ⟨[]⟩, by decide +kernel, by decide +kernel⟩

end Site

end KeyRoute
