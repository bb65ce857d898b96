-- What the metrics say of the routers that share them. Each router accounts for what it moved, so
-- the metrics account for all of them, however their calls overlap and whenever they are started
-- and dropped.
import KeyRoute.Proofs.Overlap
import KeyRoute.Router.Fleet
import KeyRoute.Simulation.Cluster

namespace KeyRoute

variable {W T C A : Type}

/-! ## One router -/

namespace Prices

variable (prices : Prices)

/-- When nothing is under way, nothing is left to be counted. -/
theorem ofCrowd_idle {crowd : Crowd W C}
    (h : ∀ thread ∈ crowd.threads, ∀ job ∈ thread.jobs, job.fresh = true) :
    (prices.account : Account T C A).ofCrowd crowd = -prices.answer * crowd.returned.length := by
  have hthread : ∀ thread ∈ crowd.threads, (prices.account : Account T C A).ofThread thread =
      -prices.answer * thread.returned.length := by
    intro thread ht
    unfold Account.ofThread
    rw [Account.owed_fresh prices.owed_fresh (h thread ht)]
    simp [account, Int.mul_comm]
  unfold Account.ofCrowd Crowd.returned
  rw [List.map_congr_left hthread, List.length_flatMap]
  induction crowd.threads with
  | nil => simp
  | cons thread threads ih =>
    simp only [List.map_cons, List.sum_cons, Nat.cast_add, ih]
    ring

/-- The handles that are cached are counted at once. -/
theorem ofCrowd_cached (crowd : Crowd W C) :
    ((⟨0, 0, 0, 0, 1⟩ : Prices).account : Account T C A).ofCrowd crowd = 0 := by
  apply List.sum_eq_zero
  intro amount hmem
  obtain ⟨thread, -, rfl⟩ := List.mem_map.mp hmem
  have howed :
      (thread.jobs.map ((⟨0, 0, 0, 0, 1⟩ : Prices).account : Account T C A).owed).sum = 0 := by
    apply List.sum_eq_zero
    intro amount hmem
    obtain ⟨job, -, rfl⟩ := List.mem_map.mp hmem
    simp only [account]
    split <;> rfl
  unfold Account.ofThread
  rw [howed]
  simp [account]

end Prices

namespace Post

/-- A router has come to where it is from its start. -/
def Grown (post : Post W T C A) : Prop :=
  ∃ (world : W) (begun : Trace T C A) (stirs : List (Stir W)),
    begun.moves = [] ∧ begun.visits = [] ∧
    let o : Outcome (Crowd W C) T C A Unit :=
      Crowd.run post.router post.parties stirs (.start ⟨world, .empty⟩ [])
    post.crowd = o.state ∧ post.past = begun ++ o.trace

theorem grown_found (parties : Collaborators W T C) (config : Config) (world : W) :
    (found parties config world : Post W T C A).Grown := by
  refine ⟨world, (Router.start parties config world).2, [], rfl, rfl, rfl, ?_⟩
  exact (Trace.append_empty _).symm

theorem grown_stir {post : Post W T C A} (h : post.Grown) (s : Stir W) :
    ({ post with crowd := (post.stir s).state, past := post.past ++ (post.stir s).trace } :
      Post W T C A).Grown := by
  obtain ⟨world, begun, stirs, hmoves, hvisits, hcrowd, hpast⟩ := h
  refine ⟨world, begun, stirs ++ [s], hmoves, hvisits, ?_, ?_⟩
  · simp only [Crowd.run_concat, ← hcrowd]
    rfl
  · simp only [Crowd.run_concat, ← hcrowd, hpast, Trace.append_assoc]
    rfl

/-- All that a router did to the metrics, with its drop. -/
def moves (post : Post W T C A) : List Move :=
  post.past.moves ++ if post.live then [] else post.router.dropMoves post.crowd.state.cache

/-- What a router says of itself by the metrics that it moved before its drop. -/
structure Accounted (post : Post W T C A) : Prop where
  size : post.size + post.past.visits.countP Visit.empties = post.past.visits.countP Visit.fills
  cached : Metrics.value post.past.moves .cachedClients = post.size
  misses : post.idle = true →
    Metrics.value post.past.moves .misses = post.past.visits.countP Visit.fills
  created : post.idle = true →
    Metrics.value post.past.moves (.created .inProcess) +
      Metrics.value post.past.moves (.created .remote) = post.past.visits.countP Visit.fills
  evictions : post.idle = true →
    Metrics.value post.past.moves .evictions = post.past.visits.countP Visit.empties
  answers : post.idle = true →
    Metrics.value post.past.moves (.hits .fast) + Metrics.value post.past.moves (.hits .recheck) +
      Metrics.value post.past.moves .misses + Metrics.value post.past.moves (.routeErrors .lookup) +
      Metrics.value post.past.moves (.routeErrors .whoAmI) +
      Metrics.value post.past.moves (.routeErrors .construct) = post.crowd.returned.length

theorem accounted {post : Post W T C A} (h : post.Grown)
    (henabled : post.router.metricsEnabled = true) : post.Accounted := by
  obtain ⟨world, begun, stirs, hmoves, hvisits, hcrowd, hpast⟩ := h
  have hleads : Leads .empty post.past.visits post.crowd.state.cache := by
    rw [hpast, hcrowd, Trace.visits_append, hvisits]
    exact Crowd.faithful_run (A := A) post.router post.parties stirs (.start ⟨world, .empty⟩ [])
  have hsize : post.size + post.past.visits.countP Visit.empties =
      post.past.visits.countP Visit.fills := by
    have h := (hleads.size Cache.sorted_empty).2
    rwa [show (Cache.empty : Cache C).size = 0 from rfl, Nat.zero_add] at h
  have hprices : ∀ prices : Prices,
      prices.total post.past.moves + (prices.account : Account T C A).ofCrowd post.crowd =
        (prices.created + prices.cached + prices.miss - prices.answer) *
            post.past.visits.countP Visit.fills +
          (prices.eviction - prices.cached) * post.past.visits.countP Visit.empties := by
    intro prices
    have hsound := prices.sound (T := T) (C := C) (A := A) henabled post.parties
    have hrun := Crowd.balance_run post.router post.parties hsound stirs
      (.start ⟨world, .empty⟩ [])
    simp only [Account.ofCrowd_start hsound.fresh, prices.gain_account, prices.loss_account,
      zero_add] at hrun
    simp only [hpast, hcrowd, Trace.moves_append, hmoves, Trace.visits_append, hvisits,
      List.nil_append]
    exact hrun
  have hidle : post.idle = true → ∀ thread ∈ post.crowd.threads, ∀ job ∈ thread.jobs,
      job.fresh = true := by
    intro hidle thread hthread job hjob
    unfold idle at hidle
    exact List.all_eq_true.mp (List.all_eq_true.mp hidle thread hthread) job hjob
  have hmisses : post.idle = true → Metrics.value post.past.moves .misses =
      post.past.visits.countP Visit.fills := by
    intro hi
    have h := hprices ⟨0, 1, 0, 0, 0⟩
    rw [Prices.ofCrowd_idle _ (hidle hi)] at h
    simpa [Prices.total] using h
  refine ⟨hsize, ?_, hmisses, ?_, ?_, ?_⟩
  · have h := hprices ⟨0, 0, 0, 0, 1⟩
    rw [Prices.ofCrowd_cached] at h
    simp [Prices.total] at h
    omega
  · intro hi
    have h := hprices ⟨0, 0, 1, 0, 0⟩
    rw [Prices.ofCrowd_idle _ (hidle hi)] at h
    simpa [Prices.total] using h
  · intro hi
    have h := hprices ⟨0, 0, 0, 1, 0⟩
    rw [Prices.ofCrowd_idle _ (hidle hi)] at h
    simpa [Prices.total] using h
  · intro hi
    have h := hprices ⟨1, 0, 0, 0, 0⟩
    rw [Prices.ofCrowd_idle _ (hidle hi), ← hmisses hi] at h
    simp [Prices.total] at h
    omega

theorem moves_disabled {post : Post W T C A} (h : post.Grown)
    (hdisabled : post.router.metricsEnabled = false) : post.moves = [] := by
  obtain ⟨world, begun, stirs, hmoves, -, -, hpast⟩ := h
  have hrun := Crowd.moves_disabled (A := A) hdisabled post.parties stirs
    (.start ⟨world, .empty⟩ [])
  have hdrop : post.router.dropMoves post.crowd.state.cache = [] := by
    simp [Router.dropMoves, Router.made, hdisabled]
  unfold moves
  simp only [hpast, Trace.moves_append, hmoves, hrun, hdrop, List.nil_append, ite_self]

/-- A drop is seen in the number of cached handles alone. -/
theorem value_moves {sample : Sample} (h : sample ≠ .cachedClients) (post : Post W T C A) :
    Metrics.value post.moves sample = Metrics.value post.past.moves sample := by
  unfold moves
  rw [Metrics.value_append]
  cases post.live with
  | true => simp [Metrics.value]
  | false =>
    cases henabled : post.router.metricsEnabled <;>
      simp [Router.dropMoves, Router.made, henabled, Metrics.value, Metrics.effect, Ne.symm h]

theorem value_cached {post : Post W T C A} (h : post.Accounted)
    (henabled : post.router.metricsEnabled = true) :
    Metrics.value post.moves .cachedClients = if post.live then (post.size : Int) else 0 := by
  unfold moves
  rw [Metrics.value_append, h.cached]
  cases post.live with
  | true => simp [Metrics.value]
  | false => simp [Router.dropMoves, Router.made, henabled, Metrics.value, Metrics.effect, size]

end Post

/-! ## All routers -/

namespace Fleet

/-- Each router has come to where it is from its start, and the metrics are what all of them made of
them. -/
structure Sound (fleet : Fleet W T C A) : Prop where
  grown : ∀ post ∈ fleet.posts, post.Grown
  moves : ∀ sample, Metrics.value fleet.moves sample =
    (fleet.posts.map fun post => Metrics.value post.moves sample).sum

theorem sound_start : (start : Fleet W T C A).Sound where
  grown := by
    intro post hpost
    cases hpost
  moves _ := rfl

/-- A router in the place of an earlier self, with the moves that it has made since. -/
theorem sound_set {fleet : Fleet W T C A} (h : fleet.Sound) {n : Nat} {post post' : Post W T C A}
    {more : List Move} (hpost : fleet.posts[n]? = some post) (hgrown : post'.Grown)
    (hmoves : ∀ sample, Metrics.value post'.moves sample =
      Metrics.value post.moves sample + Metrics.value more sample) :
    (⟨fleet.posts.set n post', fleet.moves ++ more⟩ : Fleet W T C A).Sound where
  grown := by
    intro p hp
    rcases List.mem_or_eq_of_mem_set hp with hp | rfl
    · exact h.grown p hp
    · exact hgrown
  moves := by
    intro sample
    have hsum := sum_set (b := Metrics.value post'.moves sample)
      (show (fleet.posts.map fun p => Metrics.value p.moves sample)[n]? =
        some (Metrics.value post.moves sample) by simp [hpost])
    rw [Metrics.value_append, h.moves, List.map_set]
    have := hmoves sample
    omega

theorem sound_turn {fleet : Fleet W T C A} (h : fleet.Sound) (t : Turn W T C) :
    (fleet.turn t).Sound := by
  cases t with
  | found parties config world =>
    constructor
    · intro post hpost
      rcases List.mem_append.mp hpost with hpost | hpost
      · exact h.grown post hpost
      · rw [List.mem_singleton.mp hpost]
        exact Post.grown_found parties config world
    · intro sample
      have hnew : (Post.found parties config world : Post W T C A).past.moves = [] := rfl
      have hzero :
          Metrics.value (Post.found parties config world : Post W T C A).moves sample = 0 := rfl
      simp only [turn, hnew, List.append_nil, List.map_append, List.sum_append, List.map_singleton,
        List.sum_singleton, h.moves, hzero, Int.add_zero]
  | stir n s =>
    simp only [turn]
    split
    · exact h
    · rename_i post hpost
      split
      · rename_i hlive
        apply sound_set h hpost (Post.grown_stir (h.grown post (List.mem_of_getElem? hpost)) s)
        intro sample
        simp only [Post.moves, hlive, if_true, List.append_nil, Trace.moves_append,
          Metrics.value_append]
      · exact h
  | drop n =>
    simp only [turn]
    split
    · exact h
    · rename_i post hpost
      split
      · rename_i hlive
        have hlive := (Bool.and_eq_true_iff.mp hlive).1
        have hgrown : ({ post with live := false } : Post W T C A).Grown :=
          h.grown post (List.mem_of_getElem? hpost)
        apply sound_set h hpost hgrown
        intro sample
        simp only [Post.moves, hlive, if_true, List.append_nil, Bool.false_eq_true, if_false,
          Metrics.value_append]
      · exact h

theorem sound_run {fleet : Fleet W T C A} (h : fleet.Sound) (turns : List (Turn W T C)) :
    (fleet.run turns).Sound := by
  induction turns generalizing fleet with
  | nil => exact h
  | cons t turns ih => exact ih (sound_turn h t)

/-- Only the routers that have metrics enabled count. -/
theorem value_counted {fleet : Fleet W T C A} (h : fleet.Sound) (sample : Sample) :
    Metrics.value fleet.moves sample =
      (fleet.counted.map fun post => Metrics.value post.moves sample).sum := by
  rw [h.moves sample]
  unfold counted
  have hgrown := h.grown
  generalize fleet.posts = posts at hgrown
  induction posts with
  | nil => rfl
  | cons post posts ih =>
    have hrest := ih fun p hp => hgrown p (List.mem_cons_of_mem post hp)
    rw [List.map_cons, List.sum_cons, hrest]
    cases henabled : post.router.metricsEnabled with
    | true => rw [List.filter_cons_of_pos (by simp [henabled]), List.map_cons, List.sum_cons]
    | false =>
      have hnone := Post.moves_disabled (hgrown post List.mem_cons_self) henabled
      rw [List.filter_cons_of_neg (by simp [henabled]), hnone, Metrics.value, Int.zero_add]

theorem accounted {fleet : Fleet W T C A} (h : fleet.Sound) :
    ∀ post ∈ fleet.counted, post.Accounted ∧ post.router.metricsEnabled = true := by
  intro post hpost
  obtain ⟨hmem, henabled⟩ := List.mem_filter.mp hpost
  exact ⟨Post.accounted (h.grown post hmem) henabled, henabled⟩

theorem cast_total (fleet : Fleet W T C A) (f : Post W T C A → Nat) :
    (fleet.total f : Int) = (fleet.counted.map fun post => (f post : Int)).sum := by
  unfold total
  induction fleet.counted with
  | nil => rfl
  | cons post posts ih =>
    rw [List.map_cons, List.sum_cons, Nat.cast_add, ih, List.map_cons, List.sum_cons]

/-- A metric is the total of what it is for each router. -/
theorem value_eq_total {fleet : Fleet W T C A} (h : fleet.Sound) {sample : Sample}
    {f : Post W T C A → Nat}
    (hpost : ∀ post ∈ fleet.counted, Metrics.value post.moves sample = f post) :
    Metrics.value fleet.moves sample = fleet.total f := by
  rw [value_counted h, cast_total, List.map_congr_left hpost]

theorem idle_post {fleet : Fleet W T C A} (h : fleet.idle = true) {post : Post W T C A}
    (hpost : post ∈ fleet.counted) : post.idle = true :=
  List.all_eq_true.mp h post (List.mem_of_mem_filter hpost)

theorem value_cached {fleet : Fleet W T C A} (h : fleet.Sound) :
    Metrics.value fleet.moves .cachedClients =
      fleet.total fun post => if post.live then post.size else 0 := by
  apply value_eq_total h
  intro post hpost
  obtain ⟨hacc, henabled⟩ := accounted h post hpost
  rw [Post.value_cached hacc henabled]
  split <;> rfl

/-- The answers of all calls that came back are counted, by how they came about. -/
theorem value_answers {fleet : Fleet W T C A} (h : fleet.Sound) (hidle : fleet.idle = true) :
    Metrics.value fleet.moves (.hits .fast) + Metrics.value fleet.moves (.hits .recheck) +
        Metrics.value fleet.moves .misses + Metrics.value fleet.moves (.routeErrors .lookup) +
        Metrics.value fleet.moves (.routeErrors .whoAmI) +
        Metrics.value fleet.moves (.routeErrors .construct) =
      fleet.total fun post => post.crowd.returned.length := by
  rw [cast_total]
  simp only [value_counted h, ← List.sum_map_add]
  congr 1
  apply List.map_congr_left
  intro post hpost
  have hmoves : ∀ sample, sample ≠ .cachedClients →
      Metrics.value post.moves sample = Metrics.value post.past.moves sample :=
    fun sample hne => Post.value_moves hne post
  rw [← (accounted h post hpost).1.answers (idle_post hidle hpost),
    hmoves (.hits .fast) (by decide), hmoves (.hits .recheck) (by decide),
    hmoves .misses (by decide),
    hmoves (.routeErrors .lookup) (by decide), hmoves (.routeErrors .whoAmI) (by decide),
    hmoves (.routeErrors .construct) (by decide)]

theorem value_created {fleet : Fleet W T C A} (h : fleet.Sound) (hidle : fleet.idle = true) :
    Metrics.value fleet.moves (.created .inProcess) +
        Metrics.value fleet.moves (.created .remote) =
      fleet.total fun post => post.past.visits.countP Visit.fills := by
  rw [cast_total]
  simp only [value_counted h, ← List.sum_map_add]
  congr 1
  apply List.map_congr_left
  intro post hpost
  rw [← (accounted h post hpost).1.created (idle_post hidle hpost),
    Post.value_moves (by decide), Post.value_moves (by decide)]

/-- What is cached, was cached at a drop or was evicted was built once. -/
theorem total_built {fleet : Fleet W T C A} (h : fleet.Sound) :
    (fleet.total fun post => if post.live then post.size else 0) +
        (fleet.total fun post => if post.live then 0 else post.size) +
        (fleet.total fun post => post.past.visits.countP Visit.empties) =
      fleet.total fun post => post.past.visits.countP Visit.fills := by
  unfold total
  rw [← List.sum_map_add, ← List.sum_map_add]
  congr 1
  apply List.map_congr_left
  intro post hpost
  have hsize := (accounted h post hpost).1.size
  cases post.live with
  | true => simpa using hsize
  | false => simpa using hsize

/-! ## Without a race -/

end Fleet

/-- Where no two calls race, a handle that was missing is missing still, and no second look finds
one. -/
def Job.Unraced (cache : Cache C) : Job C → Prop
  | .get (.missed _ owner) => cache.find? owner = none
  | .get (.leaving _ _ (.ok (.existing .recheck _))) => False
  | _ => True

theorem Job.unraced_of_fresh {cache : Cache C} {job : Job C} (h : job.fresh = true) :
    job.Unraced cache := by
  cases job with
  | get flight =>
    cases flight with
    | called key => trivial
    | _ => cases h
  | _ => trivial

namespace Router

variable {router : Router} {parties : Collaborators W T C}

theorem unraced_step {s : State W C} {job : Job C}
    {o : Outcome (State W C) T C A (Thread C)} (h : job.Unraced s.cache)
    (hw : router.Worked parties s job o) :
    (∀ j ∈ o.answer.jobs, j.Unraced o.state.cache) ∧
      Metrics.value o.trace.moves (.hits .recheck) = 0 := by
  have hmade : ∀ moves, Metrics.value moves (.hits .recheck) = 0 →
      Metrics.value (router.made moves) (.hits .recheck) = 0 := by
    intro moves hmoves
    unfold made
    split
    · exact hmoves
    · rfl
  cases hw with
  | lost => exact ⟨by simp [Job.Unraced], hmade _ rfl⟩
  | resolved => exact ⟨by simp [Job.Unraced], rfl⟩
  | hit => exact ⟨by simp [Job.Unraced], rfl⟩
  | missed hc => exact ⟨by simpa [Job.Unraced] using hc, rfl⟩
  | overtaken hc =>
    have hnone : s.cache.find? _ = none := h
    rw [hc] at hnone
    cases hnone
  | failed =>
    exact ⟨by simp [Job.Unraced], hmade _ (by simp [Metrics.value, Metrics.effect, Sample.up])⟩
  | built =>
    refine ⟨by simp [Job.Unraced], ?_⟩
    simp only [Metrics.value_append]
    rw [hmade _ (by simp [Metrics.value, Metrics.effect, Sample.up]), hmade _ rfl]
    rfl
  | gaveUp => exact ⟨by simp, rfl⟩
  | @cameBack key owner entry =>
    refine ⟨by simp, hmade _ ?_⟩
    rcases entry with ⟨_ | _, client⟩ | client
    · rfl
    · exact h.elim
    · rfl
  | removed => exact ⟨by simp [Job.Unraced], hmade _ rfl⟩
  | absent => exact ⟨by simp, rfl⟩
  | reported => exact ⟨by simp, hmade _ rfl⟩
  | handled => exact ⟨by simp [Job.Unraced], rfl⟩
  | ignored => exact ⟨by simp, rfl⟩
  | @applied change => cases change.evicts <;> exact ⟨by simp [Job.Unraced], rfl⟩

end Router

/-- No call on the router has raced with another. -/
structure Post.Unraced (post : Post W T C A) : Prop where
  tidy : post.crowd.Tidy
  jobs : ∀ thread ∈ post.crowd.threads, ∀ job ∈ thread.jobs,
    job.Unraced post.crowd.state.cache
  hits : Metrics.value post.past.moves (.hits .recheck) = 0

/-- While a thread takes a step, no other has begun anything that it has not finished. -/
def Crowd.Alone (crowd : Crowd W C) (i : Nat) : Prop :=
  ∀ j thread, crowd.threads[j]? = some thread → j ≠ i → ∀ job ∈ thread.jobs, job.fresh = true

instance (crowd : Crowd W C) (i : Nat) : Decidable (crowd.Alone i) :=
  decidable_of_iff
    (∀ j ∈ List.range crowd.threads.length, ∀ thread ∈ crowd.threads[j]?, j ≠ i →
      ∀ job ∈ thread.jobs, job.fresh = true)
    ⟨fun h j thread hthread => h j (List.mem_range.mpr (List.getElem?_eq_some_iff.mp hthread).1)
      thread hthread, fun h j _ => h j⟩

theorem Crowd.unraced_tick {router : Router} {parties : Collaborators W T C} {crowd : Crowd W C}
    {i : Nat} (halone : crowd.Alone i) (htidy : crowd.Tidy)
    (h : ∀ thread ∈ crowd.threads, ∀ job ∈ thread.jobs, job.Unraced crowd.state.cache) :
    let o : Outcome (Crowd W C) T C A Unit := tick router parties i crowd
    (∀ thread ∈ o.state.threads, ∀ job ∈ thread.jobs, job.Unraced o.state.state.cache) ∧
      Metrics.value o.trace.moves (.hits .recheck) = 0 := by
  rcases tick_cases (A := A) router parties i crowd with
    ⟨-, hs⟩ | ⟨thread, job, jobs, ht, hj, hs⟩
  · rw [hs]
    exact ⟨h, rfl⟩
  · have hthread := List.mem_of_getElem? ht
    have hstep := Router.unraced_step (h thread hthread job (by rw [hj]; exact List.mem_cons_self))
      (router.worked (A := A) parties job crowd.state)
    rw [hs]
    generalize (router.work parties job crowd.state : Outcome (State W C) T C A _) = o at hstep
    refine ⟨?_, hstep.2⟩
    intro t hmem j hj'
    obtain ⟨n, hn⟩ := List.mem_iff_getElem?.mp hmem
    rw [List.getElem?_set] at hn
    split at hn
    · split at hn
      · cases hn
        rcases List.mem_append.mp hj' with hj' | hj'
        · exact hstep.1 j hj'
        · exact Job.unraced_of_fresh (htidy thread hthread j (by rw [hj]; exact hj'))
      · cases hn
    · rename_i hne
      exact Job.unraced_of_fresh (halone n t hn (Ne.symm hne) j hj')

theorem Post.unraced_stir {post : Post W T C A} (h : post.Unraced) {s : Stir W}
    (halone : ∀ i, s = .tick i → post.crowd.Alone i) :
    ({ post with crowd := (post.stir s).state, past := post.past ++ (post.stir s).trace } :
      Post W T C A).Unraced := by
  refine ⟨Crowd.tidy_stir post.router post.parties s h.tidy, ?_, ?_⟩
  · cases s with
    | tick i => exact (Crowd.unraced_tick (halone i rfl) h.tidy h.jobs).1
    | join requests =>
      intro thread hthread job hjob
      rcases List.mem_append.mp hthread with hthread | hthread
      · exact h.jobs thread hthread job hjob
      · rw [List.mem_singleton.mp hthread] at hjob
        obtain ⟨request, -, rfl⟩ := List.mem_map.mp hjob
        exact Job.unraced_of_fresh request.fresh_job
    | drift world => exact h.jobs
  · have hstir : Metrics.value (post.stir s).trace.moves (.hits .recheck) = 0 := by
      cases s with
      | tick i => exact (Crowd.unraced_tick (halone i rfl) h.tidy h.jobs).2
      | join requests => rfl
      | drift world => rfl
    rw [Trace.moves_append, Metrics.value_append, h.hits, hstir]
    rfl

namespace Fleet

/-- No two calls on one router overlap in this turn. A call that has not yet looked up its key is
not in the way of any other, so calls from inside a look-up are none of these. -/
def Alone (fleet : Fleet W T C A) : Turn W T C → Prop
  | .stir n (.tick i) => ∀ post, fleet.posts[n]? = some post → post.crowd.Alone i
  | _ => True

instance (fleet : Fleet W T C A) : (t : Turn W T C) → Decidable (fleet.Alone t)
  | .stir n (.tick i) =>
    inferInstanceAs (Decidable (∀ post ∈ fleet.posts[n]?, post.crowd.Alone i))
  | .stir _ (.join _) | .stir _ (.drift _) | .found .. | .drop _ => .isTrue trivial

/-- No two calls on one router overlap in any turn. -/
def Lone (fleet : Fleet W T C A) : List (Turn W T C) → Prop
  | [] => True
  | t :: turns => fleet.Alone t ∧ (fleet.turn t).Lone turns

instance decideLone (fleet : Fleet W T C A) : (turns : List (Turn W T C)) →
    Decidable (fleet.Lone turns)
  | [] => .isTrue trivial
  | t :: turns =>
    have := (fleet.turn t).decideLone turns
    inferInstanceAs (Decidable (fleet.Alone t ∧ (fleet.turn t).Lone turns))

theorem unraced_turn {fleet : Fleet W T C A} {t : Turn W T C} (halone : fleet.Alone t)
    (h : ∀ post ∈ fleet.posts, post.Unraced) : ∀ post ∈ (fleet.turn t).posts, post.Unraced := by
  cases t with
  | found parties config world =>
    intro post hpost
    rcases List.mem_append.mp hpost with hpost | hpost
    · exact h post hpost
    · rw [List.mem_singleton.mp hpost]
      exact ⟨(fun _ ht => by cases ht), (fun _ ht => by cases ht), rfl⟩
  | stir n s =>
    intro post hpost
    simp only [turn] at hpost
    split at hpost
    · exact h post hpost
    · rename_i old hold
      split at hpost
      · rcases List.mem_or_eq_of_mem_set hpost with hpost | rfl
        · exact h post hpost
        · apply Post.unraced_stir (h old (List.mem_of_getElem? hold))
          rintro i rfl
          exact halone old hold
      · exact h post hpost
  | drop n =>
    intro post hpost
    simp only [turn] at hpost
    split at hpost
    · exact h post hpost
    · rename_i old hold
      split at hpost
      · rcases List.mem_or_eq_of_mem_set hpost with hpost | rfl
        · exact h post hpost
        · have hself := h old (List.mem_of_getElem? hold)
          exact ⟨hself.tidy, hself.jobs, hself.hits⟩
      · exact h post hpost

theorem unraced_run {fleet : Fleet W T C A} {turns : List (Turn W T C)} (hlone : fleet.Lone turns)
    (h : ∀ post ∈ fleet.posts, post.Unraced) : ∀ post ∈ (fleet.run turns).posts, post.Unraced := by
  induction turns generalizing fleet with
  | nil => exact h
  | cons t turns ih => exact ih hlone.2 (unraced_turn hlone.1 h)

/-- Whatever calls, removals and events there are on routers that share their metrics, however
their steps fall between one another, and whenever routers are started and dropped: the gauge is
what the routers that were not dropped hold; and when no call is under way, each build is one miss,
each removal that found something one eviction, and each call that came back one hit, miss or
error. If no two calls overlap, no second look finds anything. Only routers that have metrics
enabled are counted. -/
theorem the_metrics_account_for_all_routers (turns : List (Turn W T C)) :
    let fleet : Fleet W T C A := start.run turns
    let value := Metrics.value fleet.moves
    value .cachedClients = fleet.total (fun post => if post.live then post.size else 0) ∧
    (fleet.idle = true →
      value .misses = value (.created .inProcess) + value (.created .remote) ∧
      value .misses = fleet.total (fun post => post.past.visits.countP Visit.fills) ∧
      value .evictions = fleet.total (fun post => post.past.visits.countP Visit.empties) ∧
      value (.hits .fast) + value (.hits .recheck) + value .misses +
        value (.routeErrors .lookup) + value (.routeErrors .whoAmI) +
        value (.routeErrors .construct) =
          fleet.total (fun post => post.crowd.returned.length) ∧
      value .cachedClients = value .misses - value .evictions -
        fleet.total (fun post => if post.live then 0 else post.size)) ∧
    ((start : Fleet W T C A).Lone turns → value (.hits .recheck) = 0) := by
  intro fleet value
  have h : fleet.Sound := sound_run sound_start turns
  have hcached := value_cached h
  refine ⟨hcached, ?_, ?_⟩
  · intro hidle
    have hmisses : value .misses = fleet.total fun post => post.past.visits.countP Visit.fills := by
      apply value_eq_total h
      intro post hpost
      rw [Post.value_moves (by decide)]
      exact (accounted h post hpost).1.misses (idle_post hidle hpost)
    have hevictions : value .evictions =
        fleet.total fun post => post.past.visits.countP Visit.empties := by
      apply value_eq_total h
      intro post hpost
      rw [Post.value_moves (by decide)]
      exact (accounted h post hpost).1.evictions (idle_post hidle hpost)
    have hbuilt := total_built h
    refine ⟨hmisses.trans (value_created h hidle).symm, hmisses, hevictions,
      value_answers h hidle, ?_⟩
    rw [hmisses, hevictions, ← hbuilt]
    change Metrics.value fleet.moves .cachedClients = _
    rw [hcached]
    omega
  · intro hlone
    have hunraced : ∀ post ∈ fleet.posts, post.Unraced :=
      unraced_run hlone fun post hpost => by cases hpost
    have hzero : value (.hits .recheck) = fleet.total fun _ => 0 := by
      apply value_eq_total h
      intro post hpost
      rw [Post.value_moves (by decide)]
      exact (hunraced post (List.mem_of_mem_filter hpost)).hits
    rw [hzero]
    simp [total]

/-- Two callers race on a router, one handle of it is evicted, and it is dropped with the other; a
second router still holds a handle, and a third one has metrics disabled. And two callers on one
router who do not race: the second one finds what the first one left, at the first look. -/
theorem three_routers :
    let cluster := Cluster.start "a" "svc" [("k", "b"), ("l", "a")]
    let ask (n i : Nat) : List (Turn Cluster Wire Handle) := List.replicate 8 (.stir n (.tick i))
    let turns : List (Turn Cluster Wire Handle) :=
      [.found Cluster.parties .default cluster, .found Cluster.parties .default cluster,
        .found Cluster.parties { Config.default with metricsEnabled := false } cluster,
        .stir 0 (.join [.get "k", .get "l"]), .stir 0 (.join [.get "k", .remove "b"]),
        .stir 1 (.join [.get "l", .get "l"]), .stir 2 (.join [.get "k"])] ++
      [.stir 0 (.tick 0), .stir 0 (.tick 1), .stir 0 (.tick 0), .stir 0 (.tick 1)] ++
      ask 0 0 ++ ask 0 1 ++ ask 1 0 ++ ask 2 0 ++ [.drop 0]
    let fleet : Fleet Cluster Wire Handle Empty := start.run turns
    fleet.idle = true ∧
    (Sample.all.map fun sample => Metrics.value fleet.moves sample) =
      [1, 1, 3, 1, 2, 1, 1, 0, 0, 0] ∧
    Metrics.value fleet.moves .misses =
      fleet.total (fun post => post.past.visits.countP Visit.fills) ∧
    let turns' := [.found Cluster.parties .default cluster, .stir 0 (.join [.get "k"]),
      .stir 0 (.join [.get "k"])] ++ ask 0 0 ++ ask 0 1
    let fleet' : Fleet Cluster Wire Handle Empty := start.run turns'
    (start : Fleet Cluster Wire Handle Empty).Lone turns' ∧
    Metrics.value fleet'.moves (.hits .fast) = 1 ∧
    Metrics.value fleet'.moves (.hits .recheck) = 0 := by
  intro cluster ask turns fleet
  have hidle : fleet.idle = true := by decide +kernel
  refine ⟨hidle, by decide +kernel,
    ((the_metrics_account_for_all_routers turns).2.1 hidle).2.1, ?_⟩
  intro turns' fleet'
  have hlone : (start : Fleet Cluster Wire Handle Empty).Lone turns' := by decide +kernel
  exact ⟨hlone, by decide +kernel, (the_metrics_account_for_all_routers turns').2.2 hlone⟩

end Fleet

end KeyRoute
