-- Nodes that become unreachable. The handle of such a node is taken out when the change is handled,
-- so what is cached for it later was built later. A call that was told of the node before, and had
-- not yet had its last look, is not stopped: it finds nothing, builds a handle and leaves it
-- behind.
import KeyRoute.Proofs.Provenance
import KeyRoute.Router.Program

namespace KeyRoute.Crowd

deriving instance DecidableEq for Flight
deriving instance DecidableEq for Job

variable {W T C A : Type} (router : Router) (parties : Collaborators W T C)

/-! ## Between two steps of a thread -/

/-- What a thread has to do next stays so until it takes a step. -/
theorem job_stir {crowd : Crowd W C} {s : Stir W} {i : Nat} {job : Job C} (hs : s ≠ .tick i)
    (h : crowd.job? i = some job) :
    (stir router parties s crowd : Outcome (Crowd W C) T C A Unit).state.job? i = some job := by
  cases s with
  | tick j =>
    rw [stir_tick]
    rcases tick_cases (A := A) router parties j crowd with ⟨-, hs'⟩ | ⟨thread, _, _, -, -, hs'⟩
    · rw [hs']
      exact h
    · have hji : j ≠ i := by
        rintro rfl
        exact hs rfl
      rw [hs']
      unfold job? at *
      rwa [List.getElem?_set_ne hji]
  | join requests =>
    obtain ⟨thread, ht, hj⟩ := Option.bind_eq_some_iff.mp h
    change (crowd.threads ++ [Thread.start requests])[i]?.bind (·.jobs.head?) = some job
    rw [List.getElem?_append_left (List.getElem?_eq_some_iff.mp ht).1, ht]
    exact hj
  | drift world => exact h

theorem job_kept {crowd : Crowd W C} {early between : List (Stir W)} {i : Nat} {job : Job C}
    (hbetween : .tick i ∉ between) (h : (after router parties A crowd early).job? i = some job) :
    (after router parties A crowd (early ++ between)).job? i = some job := by
  induction between using List.reverseRecOn with
  | nil => rwa [List.append_nil]
  | append_singleton between s ih =>
    simp only [List.mem_append, List.mem_singleton, not_or] at hbetween
    rw [← List.append_assoc, after_concat]
    exact job_stir router parties (Ne.symm hbetween.2) (ih hbetween.1)

theorem job_tick {crowd : Crowd W C} {early : List (Stir W)} {i : Nat} {was job : Job C}
    (h : (after router parties A crowd early).job? i = some was)
    (hleaves : (router.work parties was (after router parties A crowd early).state :
      Outcome (State W C) T C A _).answer.jobs.head? = some job) :
    (after router parties A crowd (early ++ [.tick i])).job? i = some job := by
  rw [after_concat, stir_tick]
  rcases tick_cases (A := A) router parties i (after router parties A crowd early) with
    ⟨hnone, -⟩ | ⟨thread, job', jobs, ht, hj, hs⟩
  · rw [hnone] at h
    cases h
  · unfold job? at h
    simp only [ht, Option.bind_some, hj, List.head?_cons, Option.some.injEq] at h
    have hlt : i < (after router parties A crowd early).threads.length :=
      (List.getElem?_eq_some_iff.mp ht).1
    rw [hs, h]
    unfold job?
    simp [List.getElem?_set_self hlt, hleaves]

/-- A point of a run up to the next step of a thread lies up to its last one or after that. -/
theorem Next.before_or_since {i : Nat} {early late point : List (Stir W)} (h : Next i early late)
    (hpoint : point <+: late) : point <+: early ∨ early ++ [.tick i] <+: point := by
  obtain ⟨between, rfl, -⟩ := h
  have hstep : early ++ [.tick i] <+: early ++ .tick i :: between := ⟨between, by simp⟩
  rcases List.prefix_or_prefix_of_prefix hpoint hstep with hbefore | hsince
  · rcases List.prefix_concat_iff.mp hbefore with rfl | hbefore
    · exact .inr List.prefix_rfl
    · exact .inl hbefore
  · exact .inr hsince

/-- What a thread has begun it has been at since its last step. -/
theorem begun_since {state : State W C} {requests : List (List Request)}
    {early mid late : List (Stir W)} {i : Nat} {job : Job C} (hnext : Next i early late)
    (hearly : early ++ [.tick i] <+: mid) (hlate : mid <+: late) (hbegun : job.fresh = false)
    (h : (after router parties A (start state requests) late).job? i = some job) :
    (after router parties A (start state requests) mid).job? i = some job := by
  obtain ⟨between, rfl, hbetween⟩ := hnext
  obtain ⟨first, rfl⟩ := hearly
  obtain ⟨rest, hrest⟩ := hlate
  have hsplit : first ++ rest = between := by simpa using hrest
  rw [← hrest] at h
  have hquiet : .tick i ∉ rest := fun hmem => hbetween (hsplit ▸ List.mem_append_right _ hmem)
  clear hrest hsplit
  induction rest using List.reverseRecOn with
  | nil => rwa [List.append_nil] at h
  | append_singleton rest s ih =>
    simp only [List.mem_append, List.mem_singleton, not_or] at hquiet
    rw [← List.append_assoc, after_concat] at h
    rcases begun_stir router parties (tidy_run router parties _ (tidy_start state requests)) h
        hbegun with ⟨-, h⟩ | ⟨hs, -⟩
    · exact ih h hquiet.1
    · exact absurd hs.symm hquiet.2

/-! ## The change is handled -/

/-- A thread handles a change that takes its member out of service: one step of it judges the
change, and the next removes the handle. -/
structure Handles (after : List (Stir W) → Crowd W C) (j : Nat) (change : Change)
    (judged removed : List (Stir W)) : Prop where
  evicts : change.evicts = true
  judges : (after judged).job? j = some (.apply change)
  next : Next j judged removed

/-- A call of a thread has been told that the address owns its key, and has not had its last look.
-/
def UnderWay (crowd : Crowd W C) (i : Nat) (key : String) (address : Address) : Prop :=
  crowd.job? i = some (.get (.resolved key address)) ∨
    crowd.job? i = some (.get (.missed key address))

variable {router parties}

/-- Right after the change was handled nothing is cached for its member. -/
theorem Handles.nothing_left {crowd : Crowd W C} {j : Nat} {change : Change}
    {judged removed : List (Stir W)}
    (h : Handles (after router parties A crowd) j change judged removed) :
    (after router parties A crowd (removed ++ [.tick j])).state.cache.find? change.address =
      none := by
  obtain ⟨hevicts, hjudges, between, rfl, hbetween⟩ := h
  have hremoves : (after router parties A crowd (judged ++ .tick j :: between)).job? j =
      some (.remove change.address) := by
    rw [List.append_cons]
    refine job_kept router parties hbetween (job_tick router parties hjudges ?_)
    simp only [Router.work_apply, hevicts, if_true, List.head?_cons]
  rw [after_tick router parties hremoves]
  generalize (after router parties A crowd (judged ++ .tick j :: between)).state = s
  cases hc : s.cache.contains change.address with
  | true =>
    rw [Router.work_removed router parties hc, Cache.find?_erase, if_pos rfl]
  | false =>
    rw [Router.work_absent router parties hc]
    simpa [Cache.contains] using hc

/-- A call that comes to its second look after some point asked after it, or was under way there. -/
theorem Comes.asked_or_under_way {state : State W C} {requests : List (List Request)} {i : Nat}
    {key : String} {address : Address} {asked entered point : List (Stir W)}
    (h : Comes parties (after router parties A (start state requests)) i key address asked entered)
    (hpoint : point <+: entered) :
    point <+: asked ∨ UnderWay (after router parties A (start state requests) point) i key
      address := by
  obtain ⟨-, -, ⟨looked, hfirst, hlook, hlast⟩, henters⟩ := h
  rcases hlast.before_or_since hpoint with hpoint | hsince
  · rcases hfirst.before_or_since hpoint with hbefore | hsince
    · exact .inl hbefore
    · exact .inr (.inl (begun_since router parties hfirst hsince hpoint rfl hlook))
  · exact .inr (.inr (begun_since router parties hlast hsince hpoint rfl henters))

variable (router parties)

/-- A call whose second look comes next leaves a handle cached if none is and one can be made. -/
theorem second_look_fills {crowd : Crowd W C} {stirs : List (Stir W)} {i : Nat} {key : String}
    {address : Address} {client : C}
    (h : (after router parties A crowd stirs).job? i = some (.get (.missed key address)))
    (hnone : (after router parties A crowd stirs).state.cache.find? address = none)
    (hmade : (router.build parties address (after router parties A crowd stirs).state :
      Outcome (State W C) T C A _).answer = .ok client) :
    (after router parties A crowd (stirs ++ [.tick i])).state.cache.find? address =
      some client := by
  rw [after_tick router parties h, Router.work_enter, Router.enter_ok router parties hnone hmade,
    Cache.find?_insert, if_pos rfl]

/-- Once a change that takes a node out of service was handled, nothing is cached for the node. What
is cached for it later was made after that, by a call that was told after that that the node owns
its key, or by one that was under way when the change was handled. If no call was under way for it,
then, only new calls bring the node back. But a call that was under way does bring it back: one that
had had its first look finds nothing at its second, and leaves a handle cached for a node that it
was told of before the change was handled. -/
theorem only_calls_under_way_keep_a_dead_node (world : W) (requests : List (List Request))
    (stirs : List (Stir W)) (j : Nat) (change : Change) (judged removed : List (Stir W))
    (hhandles : Handles (after router parties A (start ⟨world, .empty⟩ requests)) j change judged
      removed)
    (hpre : removed ++ [.tick j] <+: stirs) :
    let crowd : Crowd W C := start ⟨world, .empty⟩ requests
    let upTo := after router parties A crowd
    let handled := removed ++ [.tick j]
    (upTo handled).state.cache.find? change.address = none ∧
    (∀ client, (upTo stirs).state.cache.find? change.address = some client →
      ∃ i key asked entered, handled <+: entered ∧ entered ++ [.tick i] <+: stirs ∧
        Made router parties A crowd i change.address client entered ∧
        Comes parties upTo i key change.address asked entered ∧
        (handled <+: asked ∨ UnderWay (upTo handled) i key change.address)) ∧
    ∀ i key client, (upTo handled).job? i = some (.get (.missed key change.address)) →
      (router.build parties change.address (upTo handled).state :
        Outcome (State W C) T C A _).answer = .ok client →
      (∃ asked, Comes parties upTo i key change.address asked handled) ∧
        (upTo (handled ++ [.tick i])).state.cache.find? change.address = some client := by
  intro crowd upTo handled
  have hnothing : (upTo handled).state.cache.find? change.address = none := hhandles.nothing_left
  refine ⟨hnothing, ?_, ?_⟩
  · intro client hcached
    rcases made_since router parties hpre hcached with hstill | ⟨i, entered, hlater, hwithin, hmade⟩
    · rw [hnothing] at hstill
      cases hstill
    · obtain ⟨key, asked, hcomes⟩ := hmade.comes
      exact ⟨i, key, asked, entered, hlater, hwithin, hmade, hcomes,
        hcomes.asked_or_under_way hlater⟩
  · intro i key client hjob hbuilt
    exact ⟨comes_of_missed hjob, second_look_fills router parties hjob hnothing hbuilt⟩

/-- A node is taken out of service while nobody is under way for it, and then a call asks for it. -/
theorem a_new_call_brings_it_back :
    let router : Router := ⟨"svc", true⟩
    let cluster := Cluster.start "a" "svc" [("k", "b")]
    let dead : Change := .new "b" .faulty
    let requests : List (List Request) := [[.get "k", .get "k"], [.handle (.changes [dead])]]
    let upTo := after router Cluster.parties Empty (start ⟨cluster, .empty⟩ requests)
    let removed : List (Stir Cluster) := [0, 0, 0, 0, 1, 1].map .tick
    let handled := removed ++ [.tick 1]
    let stirs := handled ++ [0, 0, 0].map .tick
    (upTo removed).state.cache.find? dead.address = some (.remote "svc" "b" 1) ∧
    (upTo handled).state.cache.find? dead.address = none ∧
    (upTo stirs).state.cache.find? dead.address = some (.remote "svc" "b" 2) ∧
    ∃ i key asked entered, handled <+: asked ∧ entered ++ [.tick i] <+: stirs ∧
      Comes Cluster.parties upTo i key dead.address asked entered := by
  intro router cluster dead requests upTo removed handled stirs
  have hhandles : Handles upTo 1 dead ([0, 0, 0, 0, 1].map .tick) removed :=
    ⟨by decide +kernel, by decide +kernel, [], rfl, by simp⟩
  obtain ⟨-, hbrought, -⟩ := only_calls_under_way_keep_a_dead_node router Cluster.parties cluster
    requests stirs 1 dead _ removed hhandles (List.prefix_append _ _)
  refine ⟨by decide +kernel, by decide +kernel, by decide +kernel, ?_⟩
  obtain ⟨i, key, asked, entered, -, hwithin, -, hcomes, hwhen⟩ :=
    hbrought (.remote "svc" "b" 2) (by decide +kernel)
  refine ⟨i, key, asked, entered, hwhen.resolve_right ?_, hwithin, hcomes⟩
  have hheads : (upTo handled).threads.map (·.jobs.head?) =
      [some (.get (.called "k")), some (.report "b")] := by decide +kernel
  have hjob : (upTo handled).job? i = ((upTo handled).threads.map (·.jobs.head?))[i]?.join := by
    unfold job?
    rw [List.getElem?_map]
    cases (upTo handled).threads[i]? <;> rfl
  rw [hheads] at hjob
  rcases i with _ | _ | i <;> rintro (h | h) <;> cases hjob.symm.trans h

/-- A call asks who owns its key; then the change that the owner is dead is handled, which finds
nothing to take out; and then the call builds a handle. Nobody asks for an owner after the change,
and yet the dead node stays cached. So it does if the change is handled while the look-up runs. -/
theorem a_dead_node_stays_cached :
    let router : Router := ⟨"svc", true⟩
    let cluster := Cluster.start "a" "svc" [("k", "b")]
    let dead : Change := .new "b" .faulty
    let crowd : Crowd Cluster Handle :=
      start ⟨cluster, .empty⟩ [[.get "k"], [.handle (.changes [dead])]]
    let upTo := after router Cluster.parties Empty crowd
    let removed : List (Stir Cluster) := [0, 1, 1].map .tick
    let later : Outcome (Crowd Cluster Handle) Wire Handle Empty Unit :=
      run router Cluster.parties ([0, 0, 0].map .tick) (upTo (removed ++ [.tick 1]))
    let alone := router.runAll (N := Empty) Cluster.parties
      [.get "k" [.handle [.changes [dead]]]] ⟨cluster, .empty⟩
    Handles upTo 1 dead ([0, 1].map .tick) removed ∧
    (upTo (removed ++ [.tick 1])).state.cache.find? "b" = none ∧
    later.trace.calls = [.whoAmI, .newClient "svc" "b", .remoteClient ⟨"svc", "b"⟩] ∧
    later.state.finished = true ∧
    later.state.state.cache.find? "b" = some (.remote "svc" "b" 1) ∧
    alone.trace.calls = [.lookup "k", .inner .handled, .whoAmI, .newClient "svc" "b",
      .remoteClient ⟨"svc", "b"⟩] ∧
    alone.state.cache.find? "b" = some (.remote "svc" "b" 1) := by
  intro router cluster dead crowd upTo removed later alone
  refine ⟨⟨by decide +kernel, by decide +kernel, [], rfl, by simp⟩, ?_⟩
  decide +kernel

end KeyRoute.Crowd
