-- What one step of a thread does, job by job, and how the steps of a run add up. A thread has at
-- most one job that it has begun, the first one.
import KeyRoute.Proofs.Steps

namespace KeyRoute

variable {W T C A : Type}

/-! ## Jobs -/

theorem Request.fresh_job (request : Request) : (request.job : Job C).fresh = true := by
  cases request <;> rfl

/-- At most the first job has been begun. -/
def Thread.Tidy (thread : Thread C) : Prop := ∀ job ∈ thread.jobs.tail, job.fresh = true

namespace Router

variable (router : Router) (parties : Collaborators W T C)

theorem work_lost {key : String} {s : State W C} {e : RouteError}
    (h : (parties.lookup key s.world).1 = .error e) :
    (router.work parties (.get (.called key)) : Act (State W C) T C A _) s =
      ⟨⟨[.get (.leaving key none (.error e))], []⟩,
        { s with world := (parties.lookup key s.world).2 },
        ⟨[.lookup key], [.lookupFailed key e], router.made [Sample.up (.routeErrors .lookup)],
          []⟩⟩ := by
  have hr := @resolve_error W T C A router parties key (pure ()) s e h
  unfold work fly
  simp only [Act.bind_apply, hr, Act.pure_apply, Trace.append_empty]
  rfl

theorem work_resolved {key : String} {s : State W C} {owner : Address}
    (h : (parties.lookup key s.world).1 = .ok owner) :
    (router.work parties (.get (.called key)) : Act (State W C) T C A _) s =
      ⟨⟨[.get (.resolved key owner)], []⟩, { s with world := (parties.lookup key s.world).2 },
        ⟨[.lookup key], [], [], []⟩⟩ := by
  have hr := @resolve_ok W T C A router parties key (pure ()) s owner h
  unfold work fly
  simp only [Act.bind_apply, hr, Act.pure_apply, Trace.append_empty]

theorem work_hit {key : String} {owner : Address} {s : State W C} {client : C}
    (h : s.cache.find? owner = some client) :
    (router.work parties (.get (.resolved key owner)) : Act (State W C) T C A _) s =
      ⟨⟨[.get (.leaving key (some owner) (.ok (.existing .fast client)))], []⟩, s,
        ⟨[], [], [], [.found .fast owner client]⟩⟩ := by
  unfold work fly
  simp only [Act.bind_apply, read_some h, Act.pure_apply, Trace.append_empty]

theorem work_missed {key : String} {owner : Address} {s : State W C}
    (h : s.cache.find? owner = none) :
    (router.work parties (.get (.resolved key owner)) : Act (State W C) T C A _) s =
      ⟨⟨[.get (.missed key owner)], []⟩, s, ⟨[], [], [], [.missed owner]⟩⟩ := by
  unfold work fly
  simp only [Act.bind_apply, read_none h, Act.pure_apply, Trace.append_empty]

theorem work_enter (key : String) (owner : Address) (s : State W C) :
    (router.work parties (.get (.missed key owner)) : Act (State W C) T C A _) s =
      let o : Outcome (State W C) T C A _ := router.enter parties owner s
      ⟨⟨[.get (.leaving key (some owner) o.answer)], []⟩, o.state, o.trace⟩ := by
  unfold work fly
  simp only [Act.bind_apply, Act.pure_apply, Trace.append_empty]

theorem work_cameBack (key : String) (owner : Option Address) (entry : Entry C) (s : State W C) :
    (router.work parties (.get (.leaving key owner (.ok entry))) : Act (State W C) T C A _) s =
      ⟨⟨[], [⟨key, owner, .ok entry.client⟩]⟩, s,
        ⟨[], [], router.made [entry.sample.up], []⟩⟩ := by
  unfold work fly
  simp only [Act.bind_apply, leave_apply, Act.pure_apply, Trace.append_empty]

theorem work_removed {address : Address} {s : State W C} (h : s.cache.contains address = true) :
    (router.work parties (.remove address) : Act (State W C) T C A _) s =
      ⟨⟨[.report address], []⟩, { s with cache := s.cache.erase address },
        ⟨[], [], router.made [Sample.down .cachedClients], [.removed address true]⟩⟩ := by
  unfold work
  simp only [Act.bind_apply, withdraw_there router h, Act.pure_apply, if_true, Trace.append_empty]

theorem work_absent {address : Address} {s : State W C} (h : s.cache.contains address = false) :
    (router.work parties (.remove address) : Act (State W C) T C A _) s =
      ⟨⟨[], []⟩, s, ⟨[], [], [], [.removed address false]⟩⟩ := by
  unfold work
  simp only [Act.bind_apply, withdraw_absent router h, Act.pure_apply, Bool.false_eq_true,
    if_false, Trace.append_empty]

theorem work_report (address : Address) (s : State W C) :
    (router.work parties (.report address) : Act (State W C) T C A _) s =
      ⟨⟨[], []⟩, s, ⟨[], [.evicted address], router.made [Sample.up .evictions], []⟩⟩ := by
  unfold work
  simp only [Act.bind_apply, report_apply, Act.pure_apply, Trace.append_empty]

theorem work_apply (change : Change) (s : State W C) :
    (router.work parties (.apply change) : Act (State W C) T C A _) s =
      ⟨⟨if change.evicts then [.remove change.address] else [], []⟩, s,
        ⟨[], notices change, [], []⟩⟩ := by
  unfold work
  simp only [Act.bind_apply, judge_apply]
  cases change.evicts with
  | true => simp only [if_true, Act.pure_apply, Trace.append_empty]
  | false => simp only [Bool.false_eq_true, if_false, Act.pure_apply, Trace.append_empty]

/-- All that one step of a job can be. -/
inductive Worked (s : State W C) : Job C → Outcome (State W C) T C A (Thread C) → Prop
  | lost {key : String} {e : RouteError} (h : (parties.lookup key s.world).1 = .error e) :
      Worked s (.get (.called key))
        ⟨⟨[.get (.leaving key none (.error e))], []⟩,
          { s with world := (parties.lookup key s.world).2 },
          ⟨[.lookup key], [.lookupFailed key e], router.made [Sample.up (.routeErrors .lookup)],
            []⟩⟩
  | resolved {key : String} {owner : Address} (h : (parties.lookup key s.world).1 = .ok owner) :
      Worked s (.get (.called key))
        ⟨⟨[.get (.resolved key owner)], []⟩, { s with world := (parties.lookup key s.world).2 },
          ⟨[.lookup key], [], [], []⟩⟩
  | hit {key : String} {owner : Address} {client : C} (h : s.cache.find? owner = some client) :
      Worked s (.get (.resolved key owner))
        ⟨⟨[.get (.leaving key (some owner) (.ok (.existing .fast client)))], []⟩, s,
          ⟨[], [], [], [.found .fast owner client]⟩⟩
  | missed {key : String} {owner : Address} (h : s.cache.find? owner = none) :
      Worked s (.get (.resolved key owner))
        ⟨⟨[.get (.missed key owner)], []⟩, s, ⟨[], [], [], [.missed owner]⟩⟩
  | overtaken {key : String} {owner : Address} {client : C}
      (h : s.cache.find? owner = some client) :
      Worked s (.get (.missed key owner))
        ⟨⟨[.get (.leaving key (some owner) (.ok (.existing .recheck client)))], []⟩, s,
          ⟨[], [], [], [.found .recheck owner client]⟩⟩
  | failed {key : String} {owner : Address} {stage : Stage} {e : RouteError} {world : W}
      {calls : List (Call T A)} (h : s.cache.find? owner = none) (hstage : stage ≠ .lookup)
      (hb : router.build parties owner s =
        ⟨.error e, { s with world := world },
          ⟨calls, [failureNotice owner stage e], router.made [Sample.up (.routeErrors stage)],
            []⟩⟩) :
      Worked s (.get (.missed key owner))
        ⟨⟨[.get (.leaving key (some owner) (.error e))], []⟩, { s with world := world },
          ⟨calls, [failureNotice owner stage e], router.made [Sample.up (.routeErrors stage)],
            [.failed owner e]⟩⟩
  | built {key : String} {owner : Address} {kind : Kind} {client : C} {world : W}
      {calls : List (Call T A)} (h : s.cache.find? owner = none)
      (hb : router.build parties owner s =
        ⟨.ok client, { s with world := world },
          ⟨calls, [.created kind owner], router.made [Sample.up (.created kind)], []⟩⟩) :
      Worked s (.get (.missed key owner))
        ⟨⟨[.get (.leaving key (some owner) (.ok (.inserted client)))], []⟩,
          ⟨world, s.cache.insert owner client⟩,
          ⟨calls, [.created kind owner],
            router.made [Sample.up (.created kind)] ++ router.made [Sample.up .cachedClients],
            [.built owner client]⟩⟩
  | gaveUp {key : String} {owner : Option Address} {e : RouteError} :
      Worked s (.get (.leaving key owner (.error e))) ⟨⟨[], [⟨key, owner, .error e⟩]⟩, s, .empty⟩
  | cameBack {key : String} {owner : Option Address} {entry : Entry C} :
      Worked s (.get (.leaving key owner (.ok entry)))
        ⟨⟨[], [⟨key, owner, .ok entry.client⟩]⟩, s,
          ⟨[], [], router.made [entry.sample.up], []⟩⟩
  | removed {address : Address} (h : s.cache.contains address = true) :
      Worked s (.remove address)
        ⟨⟨[.report address], []⟩, { s with cache := s.cache.erase address },
          ⟨[], [], router.made [Sample.down .cachedClients], [.removed address true]⟩⟩
  | absent {address : Address} (h : s.cache.contains address = false) :
      Worked s (.remove address) ⟨⟨[], []⟩, s, ⟨[], [], [], [.removed address false]⟩⟩
  | reported {address : Address} :
      Worked s (.report address)
        ⟨⟨[], []⟩, s, ⟨[], [.evicted address], router.made [Sample.up .evictions], []⟩⟩
  | handled {batch : List Change} :
      Worked s (.handle (.changes batch)) ⟨⟨batch.map .apply, []⟩, s, .empty⟩
  | ignored {content : Announcement} :
      Worked s (.handle (.announcement content))
        ⟨⟨[], []⟩, s, ⟨[], [.eventIgnored content], [], []⟩⟩
  | applied {change : Change} :
      Worked s (.apply change)
        ⟨⟨if change.evicts then [.remove change.address] else [], []⟩, s,
          ⟨[], notices change, [], []⟩⟩

theorem worked (job : Job C) (s : State W C) :
    router.Worked parties s job (router.work parties job s : Outcome (State W C) T C A _) := by
  cases job with
  | get flight =>
    cases flight with
    | called key =>
      cases h : (parties.lookup key s.world).1 with
      | ok owner =>
        rw [router.work_resolved parties h]
        exact .resolved h
      | error e =>
        rw [router.work_lost parties h]
        exact .lost h
    | resolved key owner =>
      cases h : s.cache.find? owner with
      | some client =>
        rw [router.work_hit parties h]
        exact .hit h
      | none =>
        rw [router.work_missed parties h]
        exact .missed h
    | missed key owner =>
      rw [router.work_enter parties]
      cases h : s.cache.find? owner with
      | some client =>
        rw [enter_some router parties h]
        exact .overtaken h
      | none =>
        have hbuilding := router.building (A := A) parties owner s
        generalize hb : (router.build parties owner s : Outcome (State W C) T C A _) = o
          at hbuilding
        cases hbuilding with
        | failed stage hstage =>
          rw [enter_error router parties h (by rw [hb])]
          simp only [hb, Trace.mk_append, List.append_nil, List.nil_append]
          exact .failed h hstage hb
        | built kind =>
          rw [enter_ok router parties h (by rw [hb])]
          simp only [hb, Trace.mk_append, List.append_nil, List.nil_append]
          exact .built h hb
    | leaving key owner outcome =>
      cases outcome with
      | error e => exact .gaveUp
      | ok entry =>
        rw [router.work_cameBack parties]
        exact .cameBack
  | remove address =>
    cases h : s.cache.contains address with
    | true =>
      rw [router.work_removed parties h]
      exact .removed h
    | false =>
      rw [router.work_absent parties h]
      exact .absent h
  | report address =>
    rw [router.work_report parties]
    exact .reported
  | handle event =>
    cases event with
    | changes batch => exact .handled
    | announcement content => exact .ignored
  | apply change =>
    rw [router.work_apply parties]
    exact .applied

/-- A job leaves at most one job that is begun, and that one first. -/
theorem work_fresh_tail (job : Job C) (s : State W C) :
    ∀ j ∈ (router.work parties job s : Outcome (State W C) T C A _).answer.jobs.tail,
      j.fresh = true := by
  have h := router.worked (A := A) parties job s
  revert h
  generalize (router.work parties job s : Outcome (State W C) T C A _) = o
  intro h j hj
  cases h with
  | handled =>
    obtain ⟨change, -, rfl⟩ := List.mem_map.mp (List.mem_of_mem_tail hj)
    rfl
  | applied =>
    simp only at hj
    split at hj <;> simp at hj
  | _ => simp at hj

end Router

/-! ## Threads and crowds -/

namespace Crowd

variable (router : Router) (parties : Collaborators W T C)

theorem stir_tick (i : Nat) :
    (stir router parties (.tick i) : Act (Crowd W C) T C A Unit) = tick router parties i := rfl

/-- The first job of a thread, if it has any. -/
def job? (crowd : Crowd W C) (i : Nat) : Option (Job C) := crowd.threads[i]?.bind (·.jobs.head?)

/-- A tick does nothing where nothing is to be done, or takes one step of the first job. -/
theorem tick_cases (i : Nat) (crowd : Crowd W C) :
    (crowd.job? i = none ∧
      (tick router parties i : Act (Crowd W C) T C A Unit) crowd = ⟨(), crowd, .empty⟩) ∨
    ∃ thread job jobs, crowd.threads[i]? = some thread ∧ thread.jobs = job :: jobs ∧
      (tick router parties i : Act (Crowd W C) T C A Unit) crowd =
        let o : Outcome (State W C) T C A _ := router.work parties job crowd.state
        ⟨(), ⟨o.state, crowd.threads.set i
          ⟨o.answer.jobs ++ jobs, thread.returned ++ o.answer.returned⟩⟩, o.trace⟩ := by
  unfold tick job?
  cases ht : crowd.threads[i]? with
  | none => exact Or.inl ⟨rfl, rfl⟩
  | some thread =>
    unfold Thread.step
    cases hj : thread.jobs with
    | nil =>
      have hset : crowd.threads.set i thread = crowd.threads := by
        obtain ⟨hi, rfl⟩ := List.getElem?_eq_some_iff.mp ht
        exact List.set_getElem_self hi
      refine Or.inl ⟨by simp [hj], ?_⟩
      simp only [hj, Act.pure_apply, hset]
    | cons job jobs =>
      refine Or.inr ⟨thread, job, jobs, rfl, hj, ?_⟩
      simp only [hj, Act.bind_apply, Act.pure_apply, Trace.append_empty]

theorem run_append (stirs more : List (Stir W)) (crowd : Crowd W C) :
    (run router parties (stirs ++ more) : Act (Crowd W C) T C A Unit) crowd =
      let a : Outcome (Crowd W C) T C A Unit := run router parties stirs crowd
      let b : Outcome (Crowd W C) T C A Unit := run router parties more a.state
      ⟨(), b.state, a.trace ++ b.trace⟩ := by
  induction stirs generalizing crowd with
  | nil => rfl
  | cons s stirs ih =>
    simp only [List.cons_append, run, Act.bind_apply, ih, Trace.append_assoc]

theorem run_concat (stirs : List (Stir W)) (s : Stir W) (crowd : Crowd W C) :
    (run router parties (stirs ++ [s]) : Act (Crowd W C) T C A Unit) crowd =
      let a : Outcome (Crowd W C) T C A Unit := run router parties stirs crowd
      let b : Outcome (Crowd W C) T C A Unit := stir router parties s a.state
      ⟨(), b.state, a.trace ++ b.trace⟩ := by
  rw [run_append]
  simp only [run, Act.bind_apply, Act.pure_apply, Trace.append_empty]

/-- All threads are tidy. -/
def Tidy (crowd : Crowd W C) : Prop := ∀ thread ∈ crowd.threads, thread.Tidy

theorem tidy_start (state : State W C) (requests : List (List Request)) :
    (start state requests).Tidy := by
  intro thread ht
  obtain ⟨rs, -, rfl⟩ := List.mem_map.mp ht
  intro job hj
  obtain ⟨request, -, rfl⟩ := List.mem_map.mp (List.mem_of_mem_tail hj)
  exact request.fresh_job

theorem tidy_stir {crowd : Crowd W C} (s : Stir W) (h : crowd.Tidy) :
    (stir router parties s crowd : Outcome (Crowd W C) T C A Unit).state.Tidy := by
  cases s with
  | tick i =>
    rw [stir_tick]
    rcases tick_cases (A := A) router parties i crowd with
      ⟨-, hs⟩ | ⟨thread, job, jobs, ht, hj, hs⟩
    · rw [hs]
      exact h
    · rw [hs]
      intro t hmem
      rcases List.mem_or_eq_of_mem_set hmem with hmem | rfl
      · exact h t hmem
      · have hold : ∀ j ∈ jobs, j.fresh = true := by
          intro j hmem
          exact h thread (List.mem_of_getElem? ht) j (by rw [hj]; exact hmem)
        have hnew := router.work_fresh_tail (A := A) parties job crowd.state
        intro j hmem
        simp only at hmem
        revert hnew hmem
        generalize (router.work parties job crowd.state : Outcome _ T C A _).answer.jobs = new
        intro hnew hmem
        cases new with
        | nil => exact hold j (List.mem_of_mem_tail hmem)
        | cons k new =>
          rcases List.mem_append.mp hmem with hmem | hmem
          · exact hnew j hmem
          · exact hold j hmem
  | join requests =>
    intro t hmem
    rcases List.mem_append.mp hmem with hmem | hmem
    · exact h t hmem
    · rw [List.mem_singleton.mp hmem]
      intro job hj
      obtain ⟨request, -, rfl⟩ := List.mem_map.mp (List.mem_of_mem_tail hj)
      exact request.fresh_job
  | drift world => exact h

theorem tidy_run (stirs : List (Stir W)) {crowd : Crowd W C} (h : crowd.Tidy) :
    (run router parties stirs crowd : Outcome (Crowd W C) T C A Unit).state.Tidy := by
  induction stirs generalizing crowd with
  | nil => exact h
  | cons s stirs ih => exact ih (tidy_stir (A := A) router parties s h)

/-- What the traces of all steps have in common, the trace of a run has. -/
theorem trace_run (P : Trace T C A → Prop) (hempty : P .empty)
    (happend : ∀ a b, P a → P b → P (a ++ b))
    (hwork : ∀ job (s : State W C) o, router.Worked parties s job o → P o.trace)
    (stirs : List (Stir W)) (crowd : Crowd W C) : P (run router parties stirs crowd).trace := by
  induction stirs generalizing crowd with
  | nil => exact hempty
  | cons s stirs ih =>
    refine happend _ _ ?_ (ih _)
    cases s with
    | tick i =>
      rcases tick_cases (A := A) router parties i crowd with
        ⟨-, hs⟩ | ⟨thread, job, jobs, -, -, hs⟩
      · rw [stir_tick, hs]
        exact hempty
      · rw [stir_tick, hs]
        exact hwork job crowd.state _ (router.worked parties job crowd.state)
    | join requests => exact hempty
    | drift world => exact hempty

end Crowd

end KeyRoute
