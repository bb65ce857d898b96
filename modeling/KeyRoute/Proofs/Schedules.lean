-- Threads that only ask, while nobody evicts and the collaborators keep to their script. What each
-- call comes back with is settled before the first step, and so is what all of them together do;
-- which thread builds a handle and which find it is all that the schedule decides.
import KeyRoute.Proofs.Overlap
import KeyRoute.Proofs.Script

namespace KeyRoute

variable {A : Type}

/-! ## What all steps bring in -/

theorem perm_of_sums {α : Type} [DecidableEq α] {l l' : List α}
    (h : ∀ a, (l.map fun b => if b = a then (1 : Int) else 0).sum =
      (l'.map fun b => if b = a then (1 : Int) else 0).sum) : l.Perm l' := by
  have hcount : ∀ (l : List α) (a : α),
      (l.map fun b => if b = a then (1 : Int) else 0).sum = l.count a := by
    intro l a
    have := sum_indicator (· == a) l
    simpa only [beq_iff_eq, List.count] using this
  rw [List.perm_iff_count]
  intro a
  have := h a
  rw [hcount, hcount] at this
  exact Int.ofNat.inj this

theorem Metrics.sum_effect (sample : Sample) (moves : List Move) :
    (moves.map (effect sample)).sum = value moves sample := by
  induction moves with
  | nil => rfl
  | cons m moves ih => rw [List.map_cons, List.sum_cons, ih, value]

/-- The address that a handle was built for. -/
def Visit.builtAt? {C : Type} : Visit C → Option Address
  | .built address _ => some address
  | _ => none

theorem Leads.count_builtAt {C : Type} (address : Address) (past : List (Visit C)) :
    (past.filterMap Visit.builtAt?).count address = builds address past := by
  unfold builds
  induction past with
  | nil => rfl
  | cons v past ih =>
    rw [List.countP_cons, ← ih]
    cases v <;> simp [Visit.builtAt?, Visit.isBuild, List.count_cons, List.filterMap_cons]

/-- What calls, lines and moves count for. A hit counts the same on either path. -/
structure Weights (A : Type) where
  call : Call Wire A → Int
  notice : Notice → Int
  move : Move → Int
  hits : move (Sample.up (.hits .fast)) = move (Sample.up (.hits .recheck))

namespace Weights

variable (weights : Weights A)

def moved (moves : List Move) : Int := (moves.map weights.move).sum

def worth (trace : Trace Wire Handle A) : Int :=
  (trace.calls.map weights.call).sum + (trace.log.map weights.notice).sum +
    weights.moved trace.moves

section

variable (router : Router) (start : State Cluster Handle)

/-- What a call for an address brings in from its look-up on: a hit, or else the build that fails
each time. -/
def due (owner : Address) : Int :=
  match router.promise A start owner with
  | .ok _ => weights.moved (router.made [Sample.up (.hits .fast)])
  | .error _ => weights.worth (router.first A start owner).trace

/-- What a call for a key brings in after it has asked for the owner. -/
def dueFor (key : String) : Int :=
  match Cluster.lookup key start.world with
  | .error e => weights.notice (.lookupFailed key e) +
      weights.moved (router.made [Sample.up (.routeErrors .lookup)])
  | .ok owner => weights.due router start owner

/-- What a build brings in, with a miss in place of a hit. -/
def built (owner : Address) : Int :=
  weights.worth (router.first A start owner).trace +
    weights.moved (router.made [Sample.up .cachedClients]) +
    weights.moved (router.made [Sample.up .misses]) -
    weights.moved (router.made [Sample.up (.hits .fast)])

/-- Each call owes what it is settled to bring in; the calls that build are made up for. -/
def account : Account Wire Handle A where
  call := weights.call
  notice := weights.notice
  move := weights.move
  visit
    | .built owner _ => weights.built router start owner
    | _ => 0
  owed
    | .get (.called key) => weights.call (.lookup key) + weights.dueFor router start key
    | .get (.resolved _ owner) | .get (.missed _ owner) => weights.due router start owner
    | .get (.leaving _ _ (.ok entry)) => weights.moved (router.made [entry.sample.up])
    | _ => 0
  kept _ := 0

end

variable {router : Router} {start : State Cluster Handle} {keys : List String}
  {s : State Cluster Handle}

theorem moved_hit (path : Path) :
    weights.moved (router.made [Sample.up (.hits path)]) =
      weights.moved (router.made [Sample.up (.hits .fast)]) := by
  unfold moved Router.made
  cases path with
  | fast => rfl
  | recheck => split <;> simp [weights.hits]

theorem due_of_ok {owner : Address} {client : Handle}
    (h : router.promise A start owner = .ok client) :
    weights.due router start owner = weights.moved (router.made [Sample.up (.hits .fast)]) := by
  unfold due
  rw [h]

theorem due_of_error {owner : Address} {e : RouteError}
    (h : router.promise A start owner = .error e) :
    weights.due router start owner = weights.worth (router.first A start owner).trace := by
  unfold due
  rw [h]

theorem balances {job : Job Handle}
    {o : Outcome (State Cluster Handle) Wire Handle A (Thread Handle)}
    (hsteady : router.Steady A start keys s) (hbound : router.Bound A start keys s job)
    (hw : router.Worked Cluster.parties s job o) :
    (weights.account router start).Balances job o := by
  unfold Account.Balances Account.gain Account.loss Account.ofThread account
  cases hw with
  | @lost key e h =>
    rw [hsteady.lookup key] at h
    have hdue : weights.dueFor router start key = weights.notice (.lookupFailed key e) +
        weights.moved (router.made [Sample.up (.routeErrors .lookup)]) := by
      unfold dueFor
      rw [show Cluster.lookup key start.world = .error e from h]
    simp [hdue, moved]
    omega
  | @resolved key owner h =>
    rw [hsteady.lookup key] at h
    have hdue : weights.dueFor router start key = weights.due router start owner := by
      unfold dueFor
      rw [show Cluster.lookup key start.world = .ok owner from h]
    simp [hdue]
  | hit h => simp [weights.due_of_ok (hsteady.promised _ _ h), Entry.sample]
  | missed h => simp
  | overtaken h =>
    simp [weights.due_of_ok (hsteady.promised _ _ h), Entry.sample, weights.moved_hit]
  | failed h hstage hb =>
    obtain ⟨hanswer, htrace, -⟩ := hsteady.build h
    rw [hb] at hanswer htrace
    simp [weights.due_of_error hanswer.symm, ← htrace, worth, moved]
  | built h hb =>
    obtain ⟨hanswer, htrace, -⟩ := hsteady.build h
    rw [hb] at hanswer htrace
    simp [weights.due_of_ok hanswer.symm, built, ← htrace, worth, moved, Entry.sample]
    omega
  | gaveUp => simp
  | cameBack => simp [moved]
  | removed | absent | reported | handled | ignored | applied => exact hbound.elim

/-- What a trace takes out depends only on the addresses that handles were built for. -/
theorem loss_account (trace : Trace Wire Handle A) :
    (weights.account router start).loss trace =
      ((trace.visits.filterMap Visit.builtAt?).map (weights.built router start)).sum := by
  unfold Account.loss
  induction trace.visits with
  | nil => rfl
  | cons v visits ih =>
    rw [List.map_cons, List.sum_cons, ih]
    cases v <;> simp [account, Visit.builtAt?, List.filterMap_cons]

end Weights

/-! ## Whole runs -/

/-- The keys that a thread was to ask for, in their order. -/
def Thread.asked {C : Type} (thread : Thread C) : List String :=
  thread.returned.map (·.key) ++ thread.jobs.flatMap Job.asks

namespace Crowd

/-- What holds at all times of threads that only ask. -/
structure OnCourse (A : Type) (router : Router) (first : State Cluster Handle)
    (threads : List (List String)) (crowd : Crowd Cluster Handle) : Prop where
  steady : router.Steady A first threads.flatten crowd.state
  jobs : ∀ thread ∈ crowd.threads, ∀ job ∈ thread.jobs,
    router.Bound A first threads.flatten crowd.state job
  returned : ∀ thread ∈ crowd.threads, ∀ back ∈ thread.returned,
    router.Kept A first crowd.state back
  asked : crowd.threads.map Thread.asked = threads

/-- Threads that ask for some keys each and for nothing else. -/
def asking (state : State Cluster Handle) (threads : List (List String)) : Crowd Cluster Handle :=
  start state (threads.map (·.map .get))

/-- The run of such threads under a schedule. -/
def runAsking (A : Type) (router : Router) (first : State Cluster Handle)
    (threads : List (List String)) (schedule : List Nat) :
    Outcome (Crowd Cluster Handle) Wire Handle A Unit :=
  run router Cluster.parties (schedule.map .tick) (asking first threads)

variable {router : Router} {first : State Cluster Handle} {threads : List (List String)}
  {crowd : Crowd Cluster Handle}

theorem onCourse_start : OnCourse A router first threads (asking first threads) where
  steady := Router.steady_start
  jobs := by
    intro thread hthread job hjob
    unfold asking start at hthread
    rw [List.map_map] at hthread
    obtain ⟨keys, hkeys, rfl⟩ := List.mem_map.mp hthread
    simp only [Function.comp_apply, Thread.start, List.map_map] at hjob
    obtain ⟨key, hkey, rfl⟩ := List.mem_map.mp hjob
    exact List.mem_flatten_of_mem hkeys hkey
  returned := by
    intro thread hthread back hback
    obtain ⟨requests, -, rfl⟩ := List.mem_map.mp hthread
    cases hback
  asked := by
    unfold asking start
    rw [List.map_map, List.map_map]
    have hsame : ∀ keys : List String,
        (Thread.start (keys.map Request.get) : Thread Handle).asked = keys := by
      intro keys
      induction keys with
      | nil => rfl
      | cons key keys ih => exact congrArg (key :: ·) ih
    calc threads.map _ = threads.map id := List.map_congr_left fun keys _ => hsame keys
      _ = threads := List.map_id threads

theorem OnCourse.bound (h : OnCourse A router first threads crowd) {i : Nat} {job : Job Handle}
    (hjob : crowd.job? i = some job) : router.Bound A first threads.flatten crowd.state job := by
  obtain ⟨thread, ht, hj⟩ := Option.bind_eq_some_iff.mp hjob
  exact h.jobs thread (List.mem_of_getElem? ht) job (List.mem_of_mem_head? hj)

theorem onCourse_tick (h : OnCourse A router first threads crowd) (i : Nat) :
    let o : Outcome (Crowd Cluster Handle) Wire Handle A Unit :=
      tick router Cluster.parties i crowd
    OnCourse A router first threads o.state ∧ ∀ v ∈ o.trace.visits, v.empties = false := by
  rcases tick_cases (A := A) router Cluster.parties i crowd with
    ⟨-, hs⟩ | ⟨thread, job, jobs, ht, hj, hs⟩
  · rw [hs]
    exact ⟨h, by simp⟩
  · have hthread := List.mem_of_getElem? ht
    have hjob : crowd.job? i = some job := by simp [job?, ht, hj]
    have hstep := Router.settled h.steady (h.bound hjob)
      (router.worked Cluster.parties job crowd.state)
    rw [hs]
    generalize (router.work Cluster.parties job crowd.state : Outcome _ _ _ A _) = o at hstep
    refine ⟨⟨hstep.steady, ?_, ?_, ?_⟩, hstep.visits⟩
    · intro t ht' j hj'
      rcases List.mem_or_eq_of_mem_set ht' with ht' | rfl
      · exact (h.jobs t ht' j hj').mono hstep.grown
      · rcases List.mem_append.mp hj' with hj' | hj'
        · exact hstep.jobs j hj'
        · exact (h.jobs thread hthread j
            (by rw [hj]; exact List.mem_cons_of_mem job hj')).mono hstep.grown
    · intro t ht' back hback
      rcases List.mem_or_eq_of_mem_set ht' with ht' | rfl
      · exact (h.returned t ht' back hback).mono hstep.grown
      · rcases List.mem_append.mp hback with hback | hback
        · exact (h.returned thread hthread back hback).mono hstep.grown
        · exact hstep.returned back hback
    · have hasked : Thread.asked ⟨o.answer.jobs ++ jobs, thread.returned ++ o.answer.returned⟩ =
          thread.asked := by
        unfold Thread.asked
        rw [hj, List.flatMap_cons, ← hstep.asks]
        simp only [List.map_append, List.flatMap_append, List.append_assoc]
      have hi : (crowd.threads.map Thread.asked)[i]? = some thread.asked := by simp [ht]
      obtain ⟨hlt, heq⟩ := List.getElem?_eq_some_iff.mp hi
      rw [List.map_set, hasked, ← heq, List.set_getElem_self]
      exact h.asked

/-- Whatever the schedule, all stays on course, nothing is removed, and all accounts balance. -/
theorem onCourse_run (h : OnCourse A router first threads crowd) (schedule : List Nat) :
    let o : Outcome (Crowd Cluster Handle) Wire Handle A Unit :=
      run router Cluster.parties (schedule.map .tick) crowd
    OnCourse A router first threads o.state ∧ (∀ v ∈ o.trace.visits, v.empties = false) ∧
      ∀ weights : Weights A,
        (weights.account router first).gain o.trace +
            (weights.account router first).ofCrowd o.state =
          (weights.account router first).ofCrowd crowd +
            (weights.account router first).loss o.trace := by
  induction schedule generalizing crowd with
  | nil => exact ⟨h, by simp [run, Act.pure_apply], by simp [run, Act.pure_apply]⟩
  | cons i schedule ih =>
    obtain ⟨hcourse, hvisits⟩ := onCourse_tick h i
    obtain ⟨hcourse', hvisits', hbalance'⟩ := ih hcourse
    simp only [List.map_cons, run, Act.bind_apply, stir_tick]
    refine ⟨hcourse', ?_, ?_⟩
    · intro v hv
      rcases List.mem_append.mp hv with hv | hv
      · exact hvisits v hv
      · exact hvisits' v hv
    · intro weights
      have h1 := balance_tick router Cluster.parties fun job (hjob : crowd.job? i = some job) =>
        weights.balances h.steady (h.bound hjob) (router.worked Cluster.parties job crowd.state)
      have h2 := hbalance' weights
      simp only [Account.gain_append, Account.loss_append] at h1 h2 ⊢
      omega

/-! ## When all have come back -/

theorem jobs_finished (hfinished : crowd.finished = true) :
    ∀ thread ∈ crowd.threads, thread.jobs = [] := by
  unfold finished at hfinished
  intro thread hthread
  exact List.isEmpty_iff.mp (List.all_eq_true.mp hfinished thread hthread)

/-- Each thread has been answered for each of its keys, in their order. -/
theorem answered (h : OnCourse A router first threads crowd) (hfinished : crowd.finished = true) :
    crowd.threads.map (fun thread => thread.returned.map (·.key)) = threads := by
  rw [← h.asked]
  apply List.map_congr_left
  intro thread hthread
  unfold Thread.asked
  rw [jobs_finished hfinished thread hthread, List.flatMap_nil, List.append_nil]

theorem mem_returned_of_key (h : OnCourse A router first threads crowd)
    (hfinished : crowd.finished = true) {key : String} (hkey : key ∈ threads.flatten) :
    ∃ thread ∈ crowd.threads, ∃ back ∈ thread.returned, back.key = key := by
  rw [← answered h hfinished] at hkey
  obtain ⟨keys, hkeys, hkey⟩ := List.mem_flatten.mp hkey
  obtain ⟨thread, hthread, rfl⟩ := List.mem_map.mp hkeys
  obtain ⟨back, hback, rfl⟩ := List.mem_map.mp hkey
  exact ⟨thread, hthread, back, hback, rfl⟩

/-- In the end those handles are cached that were there or were asked for and could be built. -/
theorem find?_finished (h : OnCourse A router first threads crowd)
    (hfinished : crowd.finished = true) (address : Address) (client : Handle) :
    crowd.state.cache.find? address = some client ↔
      router.promise A first address = .ok client ∧ ((first.cache.find? address).isSome ∨
        ∃ key ∈ threads.flatten, Cluster.lookup key first.world = .ok address) := by
  constructor
  · intro hcached
    exact ⟨h.steady.promised address client hcached, h.steady.asked address client hcached⟩
  · rintro ⟨hpromise, hsome | ⟨key, hkey, howner⟩⟩
    · obtain ⟨other, hother⟩ := Option.isSome_iff_exists.mp hsome
      have hkept := h.steady.kept address other hother
      have := h.steady.promised address other hkept
      rw [hpromise] at this
      cases this
      exact hkept
    · obtain ⟨thread, hthread, back, hback, rfl⟩ := mem_returned_of_key h hfinished hkey
      exact (h.returned thread hthread back hback).2 address client howner hpromise

variable (weights : Weights A)

theorem ofCrowd_finished (hfinished : crowd.finished = true) :
    (weights.account router first).ofCrowd crowd = 0 := by
  apply List.sum_eq_zero
  intro amount hmem
  obtain ⟨thread, hthread, rfl⟩ := List.mem_map.mp hmem
  unfold Account.ofThread
  rw [jobs_finished hfinished thread hthread]
  simp [Weights.account]

theorem ofCrowd_asking :
    (weights.account router first).ofCrowd (asking first threads) =
      (threads.flatten.map fun key =>
        weights.call (.lookup key) + weights.dueFor router first key).sum := by
  unfold Account.ofCrowd asking start
  rw [List.map_flatten, List.sum_flatten, List.map_map, List.map_map, List.map_map]
  congr 1
  apply List.map_congr_left
  intro keys _
  simp [Account.ofThread, Thread.start, Weights.account, Request.job, Function.comp_def]

section

variable (router : Router) (first : State Cluster Handle) (threads : List (List String))
  (schedule : List Nat)

/-- In a run all stays on course, nothing is removed, and all accounts balance. -/
theorem course_of_run :
    let o := runAsking A router first threads schedule
    OnCourse A router first threads o.state ∧ (∀ v ∈ o.trace.visits, v.empties = false) ∧
      ∀ weights : Weights A,
        (weights.account router first).gain o.trace +
            (weights.account router first).ofCrowd o.state =
          (weights.account router first).ofCrowd (asking first threads) +
            (weights.account router first).loss o.trace :=
  onCourse_run onCourse_start schedule

/-- A handle was built exactly where one is cached now and none was before. -/
theorem builds_of_run (address : Address) :
    Leads.builds address (runAsking A router first threads schedule).trace.visits +
        (if first.cache.contains address then 1 else 0) =
      if (runAsking A router first threads schedule).state.state.cache.contains address then 1
      else 0 := by
  obtain ⟨-, hvisits, -⟩ := course_of_run (A := A) router first threads schedule
  have hnone : Leads.removals address
      (runAsking A router first threads schedule).trace.visits = 0 := by
    apply List.countP_eq_zero.mpr
    intro v hv hremoval
    have := hvisits v hv
    rw [Visit.eq_removed hremoval] at this
    cases this
  have hleads : Leads first.cache (runAsking A router first threads schedule).trace.visits
      (runAsking A router first threads schedule).state.state.cache :=
    faithful_run router Cluster.parties (schedule.map .tick) (asking first threads)
  have hbalance := hleads.builds_balance_removals address
  rwa [hnone, Nat.zero_add] at hbalance

end

variable {threads' : List (List String)} {schedule schedule' : List Nat}

/-- Two runs in which threads ask for the same keys end with the same handles. -/
theorem same_cache (hkeys : threads.flatten.Perm threads'.flatten)
    (hfinished : (runAsking A router first threads schedule).state.finished = true)
    (hfinished' : (runAsking A router first threads' schedule').state.finished = true)
    (address : Address) :
    (runAsking A router first threads schedule).state.state.cache.find? address =
      (runAsking A router first threads' schedule').state.state.cache.find? address := by
  have hcourse := (course_of_run (A := A) router first threads schedule).1
  have hcourse' := (course_of_run (A := A) router first threads' schedule').1
  apply Option.ext
  intro client
  rw [find?_finished hcourse hfinished, find?_finished hcourse' hfinished']
  simp only [hkeys.mem_iff]

/-- And they bring in the same, however one weighs it. -/
theorem same_worth (hkeys : threads.flatten.Perm threads'.flatten)
    (hfinished : (runAsking A router first threads schedule).state.finished = true)
    (hfinished' : (runAsking A router first threads' schedule').state.finished = true) :
    weights.worth (runAsking A router first threads schedule).trace =
      weights.worth (runAsking A router first threads' schedule').trace := by
  have hsame := same_cache hkeys hfinished hfinished'
  have hbuilt : ((runAsking A router first threads schedule).trace.visits.filterMap
      Visit.builtAt?).Perm ((runAsking A router first threads' schedule').trace.visits.filterMap
      Visit.builtAt?) := by
    rw [List.perm_iff_count]
    intro address
    have h := builds_of_run (A := A) router first threads schedule address
    have h' := builds_of_run (A := A) router first threads' schedule' address
    have hcached : (runAsking A router first threads schedule).state.state.cache.contains address =
        (runAsking A router first threads' schedule').state.state.cache.contains address :=
      congrArg Option.isSome (hsame address)
    rw [hcached, ← h'] at h
    rw [Leads.count_builtAt, Leads.count_builtAt]
    exact Nat.add_right_cancel h
  have h := (course_of_run (A := A) router first threads schedule).2.2 weights
  have h' := (course_of_run (A := A) router first threads' schedule').2.2 weights
  rw [ofCrowd_finished weights hfinished, ofCrowd_asking, weights.loss_account] at h
  rw [ofCrowd_finished weights hfinished', ofCrowd_asking, weights.loss_account] at h'
  rw [(hbuilt.map _).sum_eq, (hkeys.map _).sum_eq, ← h'] at h
  simpa [Account.gain, Weights.account, Weights.worth, Weights.moved] using h

theorem same_calls (hkeys : threads.flatten.Perm threads'.flatten)
    (hfinished : (runAsking A router first threads schedule).state.finished = true)
    (hfinished' : (runAsking A router first threads' schedule').state.finished = true) :
    (runAsking A router first threads schedule).trace.calls.Perm
      (runAsking A router first threads' schedule').trace.calls := by
  classical
  apply perm_of_sums
  intro call
  have h := same_worth ⟨fun c => if c = call then 1 else 0, fun _ => 0, fun _ => 0, rfl⟩
    hkeys hfinished hfinished'
  simpa [Weights.worth, Weights.moved] using h

theorem same_log (hkeys : threads.flatten.Perm threads'.flatten)
    (hfinished : (runAsking A router first threads schedule).state.finished = true)
    (hfinished' : (runAsking A router first threads' schedule').state.finished = true) :
    (runAsking A router first threads schedule).trace.log.Perm
      (runAsking A router first threads' schedule').trace.log := by
  apply perm_of_sums
  intro notice
  have h := same_worth ⟨fun _ => 0, fun n => if n = notice then 1 else 0, fun _ => 0, rfl⟩
    hkeys hfinished hfinished'
  simpa [Weights.worth, Weights.moved] using h

/-- Threads ask for some keys, in whatever order each; nobody evicts, and the collaborators keep to
their script. Under any two schedules that let all of them come back, the same handles are cached in
the end, there is one answer for each key, and the same calls, lines and metrics come of it. Only by
which path a handle was found may differ. -/
theorem only_the_path_of_a_hit_depends_on_the_schedule (router : Router)
    (first : State Cluster Handle) (threads threads' : List (List String))
    (schedule schedule' : List Nat) (hkeys : threads.flatten.Perm threads'.flatten)
    (hfinished : (runAsking A router first threads schedule).state.finished = true)
    (hfinished' : (runAsking A router first threads' schedule').state.finished = true) :
    let o := runAsking A router first threads schedule
    let o' := runAsking A router first threads' schedule'
    (∀ address, o.state.state.cache.find? address = o'.state.state.cache.find? address) ∧
    (∃ answer : String → Except RouteError Handle,
      (∀ back ∈ o.state.returned, back.result = answer back.key) ∧
      ∀ back ∈ o'.state.returned, back.result = answer back.key) ∧
    o.state.threads.map (fun thread => thread.returned.map (·.key)) = threads ∧
    o.trace.calls.Perm o'.trace.calls ∧
    o.trace.log.Perm o'.trace.log ∧
    (∀ sample, (∀ path, sample ≠ .hits path) →
      Metrics.value o.trace.moves sample = Metrics.value o'.trace.moves sample) ∧
    Metrics.value o.trace.moves (.hits .fast) + Metrics.value o.trace.moves (.hits .recheck) =
      Metrics.value o'.trace.moves (.hits .fast) +
        Metrics.value o'.trace.moves (.hits .recheck) := by
  intro o o'
  have hcourse := (course_of_run (A := A) router first threads schedule).1
  have hcourse' := (course_of_run (A := A) router first threads' schedule').1
  refine ⟨same_cache hkeys hfinished hfinished', ⟨router.fate A first, ?_, ?_⟩,
    answered hcourse hfinished, same_calls hkeys hfinished hfinished',
    same_log hkeys hfinished hfinished', ?_, ?_⟩
  · intro back hback
    obtain ⟨thread, hthread, hback⟩ := List.mem_flatMap.mp hback
    exact (hcourse.returned thread hthread back hback).1
  · intro back hback
    obtain ⟨thread, hthread, hback⟩ := List.mem_flatMap.mp hback
    exact (hcourse'.returned thread hthread back hback).1
  · intro sample hsample
    have heffect : ∀ path, Metrics.effect sample (Sample.up (.hits path)) = 0 :=
      fun path => if_neg (Ne.symm (hsample path))
    have h := same_worth ⟨fun _ => 0, fun _ => 0, Metrics.effect sample,
      (heffect .fast).trans (heffect .recheck).symm⟩ hkeys hfinished hfinished'
    simpa [Weights.worth, Weights.moved, Metrics.sum_effect] using h
  · have h := same_worth ⟨fun _ => 0, fun _ => 0,
      fun m => Metrics.effect (.hits .fast) m + Metrics.effect (.hits .recheck) m, rfl⟩
      hkeys hfinished hfinished'
    simpa [Weights.worth, Weights.moved, Metrics.sum_effect, List.sum_map_add] using h

/-- One thread asks for one key after the other, the other one the other way round. The first
schedule lets both look for the handle of `k` before one of them builds it. -/
theorem both_ways_round :
    let router : Router := ⟨"svc", true⟩
    let first : State Cluster Handle := ⟨Cluster.start "a" "svc" [("k", "b"), ("l", "a")], .empty⟩
    let keys := ["k", "l"]
    let o := runAsking Empty router first [keys, keys.rotateLeft 1]
      [1, 1, 1, 1, 0, 1, 0, 1, 0, 1, 0, 1, 0, 0, 0]
    let o' := runAsking Empty router first [keys.rotateLeft 1, keys]
      (List.replicate 8 1 ++ List.replicate 6 0)
    o.state.finished = true ∧ o'.state.finished = true ∧
    Metrics.value o.trace.moves (.hits .recheck) = 1 ∧
    Metrics.value o'.trace.moves (.hits .recheck) = 0 ∧
    Metrics.value o.trace.moves (.hits .fast) + Metrics.value o.trace.moves (.hits .recheck) =
      Metrics.value o'.trace.moves (.hits .fast) +
        Metrics.value o'.trace.moves (.hits .recheck) := by
  intro router first keys o o'
  have hfinished : o.state.finished = true := by decide +kernel
  have hfinished' : o'.state.finished = true := by decide +kernel
  have hkeys : [keys, keys.rotateLeft 1].flatten.Perm [keys.rotateLeft 1, keys].flatten := by
    decide
  have h := only_the_path_of_a_hit_depends_on_the_schedule router first _ _ _ _ hkeys
    hfinished hfinished'
  exact ⟨hfinished, hfinished', by decide +kernel, by decide +kernel, h.2.2.2.2.2.2⟩

end Crowd

end KeyRoute
