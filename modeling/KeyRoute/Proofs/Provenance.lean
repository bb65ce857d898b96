-- Where a handle comes from. What is cached at an address was made there by one call, at its second
-- look: the call had been told that the address owns its key, and made the handle for no other
-- address and no other service. So whoever gets a handle gets one that was made for the owner of
-- its key, whatever became of the keys and of this node meanwhile. Calls that a look-up makes in
-- turn are those of another caller who came just before it (`Crowd.one_thread_runs_all`).
import KeyRoute.Proofs.Making
import KeyRoute.Proofs.Overlap
import KeyRoute.Proofs.Lifetimes
import Mathlib.Data.List.Infix

namespace KeyRoute

variable {W T C A : Type}

/-! ## Steps that fill the cache -/

namespace Router

variable {router : Router} {parties : Collaborators W T C}

theorem Making.of_newClient {owner address : Address} {service : String} {w w' : W}
    {calls : List (Call T A)} {result : Except RouteError C}
    (h : router.Making parties owner w calls result w')
    (hcall : .newClient service address ∈ calls) :
    service = router.serviceName ∧ address = owner := by
  cases h with
  | unknown | own => simp at hcall
  | unreached | remote => simpa using hcall

/-- If nothing else is ever taken for this node, a handle that was made is the node's own exactly
for the node's own address. -/
theorem Making.isLocal_iff {owner me : Address} {client : C} {isLocal : C → Prop} {w w' : W}
    {calls : List (Call T A)} (h : router.Making parties owner w calls (.ok client) w')
    (hme : ∀ a, (parties.whoAmI w).1 = .ok a → a = me)
    (hlocal : ∀ w c, (parties.localClient w).1 = .ok c → isLocal c)
    (hremote : ∀ transport w c, (parties.remoteClient transport w).1 = .ok c → ¬ isLocal c) :
    isLocal client ↔ owner = me := by
  cases h with
  | own hown hmade =>
    have howner : owner = me := hme owner (by rw [hown])
    exact iff_of_true (hlocal _ client (by rw [hmade])) howner
  | remote hother hne hnew hmade =>
    rename_i other transport
    have hsame : other = me := hme other (by rw [hother])
    subst hsame
    exact iff_of_false (hremote _ _ client (by rw [hmade])) (Ne.symm hne)

variable (router parties)

/-- A step that leaves a handle at an address found it there, or made it at the second look of a
call for that address. -/
theorem work_fills {job : Job C} {s : State W C} {address : Address} {client : C}
    (h : (router.work parties job s : Outcome (State W C) T C A _).state.cache.find? address =
      some client) :
    s.cache.find? address = some client ∨
    ∃ key, job = .get (.missed key address) ∧
      let o : Outcome (State W C) T C A _ := router.work parties job s
      router.Making parties address s.world o.trace.calls (.ok client) o.state.world ∧
        o.trace.visits = [.built address client] := by
  have hw := router.worked (A := A) parties job s
  revert h hw
  generalize (router.work parties job s : Outcome (State W C) T C A _) = o
  intro h hw
  cases hw with
  | @built key owner kind made world calls hnone hb =>
    rw [Cache.find?_insert] at h
    split at h
    · rename_i hsame
      subst hsame
      cases h
      have hmaking := (router.build_asks (A := A) parties address s).1
      rw [hb] at hmaking
      exact .inr ⟨key, rfl, hmaking, rfl⟩
    · exact .inl h
  | removed =>
    rw [Cache.find?_erase] at h
    split at h
    · cases h
    · exact .inl h
  | _ => exact .inl h

/-- A transport client is asked for at the second look of a call for its address only. -/
theorem work_newClient {job : Job C} {s : State W C} {service : String} {address : Address}
    (h : .newClient service address ∈
      (router.work parties job s : Outcome (State W C) T C A _).trace.calls) :
    service = router.serviceName ∧ ∃ key, job = .get (.missed key address) := by
  have hw := router.worked (A := A) parties job s
  revert h hw
  generalize (router.work parties job s : Outcome (State W C) T C A _) = o
  intro h hw
  have hmaking (owner : Address) := (router.build_asks (A := A) parties owner s).1
  cases hw with
  | @failed key owner _ _ _ _ _ _ hb =>
    specialize hmaking owner
    rw [hb] at hmaking
    obtain ⟨hservice, rfl⟩ := hmaking.of_newClient h
    exact ⟨hservice, key, rfl⟩
  | @built key owner _ _ _ _ _ hb =>
    specialize hmaking owner
    rw [hb] at hmaking
    obtain ⟨hservice, rfl⟩ := hmaking.of_newClient h
    exact ⟨hservice, key, rfl⟩
  | lost | resolved => simp at h
  | _ => cases h

end Router

namespace Crowd

variable (router : Router) (parties : Collaborators W T C)

/-! ## Second looks -/

/-- A call of a thread has come to its second look: it asked who owns its key, did not find the
owner's handle at its first look, and took no other steps. -/
structure Comes (parties : Collaborators W T C) (after : List (Stir W) → Crowd W C) (i : Nat)
    (key : String) (owner : Address) (asked entered : List (Stir W)) : Prop where
  asks : (after asked).job? i = some (.get (.called key))
  answered : (parties.lookup key (after asked).state.world).1 = .ok owner
  looks : ∃ looked, Next i asked looked ∧
    (after looked).job? i = some (.get (.resolved key owner)) ∧ Next i looked entered
  enters : (after entered).job? i = some (.get (.missed key owner))

/-- A call made a handle for the owner of its key at its second look, and the handle was cached. -/
structure Made (A : Type) (crowd : Crowd W C) (i : Nat) (owner : Address) (client : C)
    (entered : List (Stir W)) : Prop where
  comes : ∃ key asked, Comes parties (after router parties A crowd) i key owner asked entered
  making :
    let o : Outcome (Crowd W C) T C A Unit :=
      stir router parties (.tick i) (after router parties A crowd entered)
    router.Making parties owner (after router parties A crowd entered).state.world o.trace.calls
      (.ok client) o.state.state.world ∧ o.trace.visits = [.built owner client]

variable {router parties}

theorem comes_of_missed {state : State W C} {requests : List (List Request)}
    {entered : List (Stir W)} {i : Nat} {key : String} {owner : Address}
    (h : (after router parties A (start state requests) entered).job? i =
      some (.get (.missed key owner))) :
    ∃ asked, Comes parties (after router parties A (start state requests)) i key owner asked
      entered := by
  obtain ⟨looked, look, hlast, hlook, hhead⟩ := begun_after router parties rfl h
  obtain ⟨rfl, -⟩ := router.came_from parties hhead
  obtain ⟨asked, ask, hfirst, hask, hhead⟩ := begun_after router parties rfl hlook
  obtain ⟨rfl, howned⟩ := router.came_from parties hhead
  exact ⟨asked, hask, howned, ⟨looked, hfirst, hlook, hlast⟩, h⟩

variable (router parties)

/-- A stir leaves the cache alone and is not seen, or it is a step of some job. -/
theorem stir_cases (s : Stir W) (crowd : Crowd W C) :
    let o : Outcome (Crowd W C) T C A Unit := stir router parties s crowd
    (o.state.state.cache = crowd.state.cache ∧ o.trace = .empty) ∨
    ∃ i job, s = .tick i ∧ crowd.job? i = some job ∧
      let worked : Outcome (State W C) T C A _ := router.work parties job crowd.state
      o.state.state = worked.state ∧ o.trace = worked.trace := by
  cases s with
  | tick i =>
    rw [stir_tick]
    rcases tick_cases (A := A) router parties i crowd with
      ⟨-, hs⟩ | ⟨thread, job, jobs, ht, hj, hs⟩
    · rw [hs]
      exact .inl ⟨rfl, rfl⟩
    · have hjob : crowd.job? i = some job := by simp [job?, ht, hj]
      rw [hs]
      exact .inr ⟨i, job, rfl, hjob, rfl, rfl⟩
  | join | drift => exact .inl ⟨rfl, rfl⟩

theorem stir_fills {crowd : Crowd W C} {s : Stir W} {address : Address} {client : C}
    (h : (stir router parties s crowd : Outcome (Crowd W C) T C A Unit).state.state.cache.find?
      address = some client) :
    crowd.state.cache.find? address = some client ∨
    ∃ i key, s = .tick i ∧ crowd.job? i = some (.get (.missed key address)) ∧
      let o : Outcome (Crowd W C) T C A Unit := stir router parties (.tick i) crowd
      router.Making parties address crowd.state.world o.trace.calls (.ok client)
        o.state.state.world ∧ o.trace.visits = [.built address client] := by
  rcases stir_cases (A := A) router parties s crowd with
    ⟨hcache, -⟩ | ⟨i, job, rfl, hjob, hstate, htrace⟩
  · rw [hcache] at h
    exact .inl h
  · rw [hstate] at h
    rcases router.work_fills parties h with h | ⟨key, rfl, hmade⟩
    · exact .inl h
    · refine .inr ⟨i, key, rfl, hjob, ?_⟩
      dsimp only
      rw [htrace, hstate]
      exact hmade

/-- What is cached at the end of a run was there all the time since some point, or was made since.
-/
theorem made_since {state : State W C} {requests : List (List Request)}
    {early stirs : List (Stir W)} {address : Address} {client : C} (hpre : early <+: stirs)
    (h : (after router parties A (start state requests) stirs).state.cache.find? address =
      some client) :
    (after router parties A (start state requests) early).state.cache.find? address = some client ∨
    ∃ i entered, early <+: entered ∧ entered ++ [.tick i] <+: stirs ∧
      Made router parties A (start state requests) i address client entered := by
  obtain ⟨late, rfl⟩ := hpre
  induction late using List.reverseRecOn with
  | nil =>
    rw [List.append_nil] at h
    exact .inl h
  | append_singleton late s ih =>
    rw [← List.append_assoc, after_concat] at h
    rcases stir_fills router parties h with h | ⟨i, key, rfl, hjob, hmade⟩
    · rcases ih h with h | ⟨i, entered, hearly, hlate, hmade⟩
      · exact .inl h
      · refine .inr ⟨i, entered, hearly, hlate.trans ?_, hmade⟩
        rw [← List.append_assoc]
        exact List.prefix_append _ _
    · obtain ⟨asked, hcomes⟩ := comes_of_missed hjob
      refine .inr ⟨i, early ++ late, List.prefix_append _ _, ?_, ⟨key, asked, hcomes⟩, hmade⟩
      rw [List.append_assoc]

theorem stir_newClient {crowd : Crowd W C} {s : Stir W} {service : String} {address : Address}
    (h : .newClient service address ∈
      (stir router parties s crowd : Outcome (Crowd W C) T C A Unit).trace.calls) :
    service = router.serviceName ∧
      ∃ i key, s = .tick i ∧ crowd.job? i = some (.get (.missed key address)) := by
  rcases stir_cases (A := A) router parties s crowd with
    ⟨-, htrace⟩ | ⟨i, job, rfl, hjob, -, htrace⟩
  · rw [htrace] at h
    cases h
  · rw [htrace] at h
    obtain ⟨hservice, key, rfl⟩ := router.work_newClient parties h
    exact ⟨hservice, i, key, rfl, hjob⟩

/-! ## Every handle is of its owner -/

/-- A thread has taken its first step of two when it takes the second. -/
theorem Next.last {i : Nat} {early late : List (Stir W)} (h : Next i early late) :
    early ++ [.tick i] <+: late ++ [.tick i] := by
  obtain ⟨between, rfl, -⟩ := h
  exact ⟨between ++ [.tick i], by simp⟩

/-- What was visited in a part of a run was visited in the run. -/
theorem visits_of_prefix {crowd : Crowd W C} {early stirs : List (Stir W)} {s : Stir W}
    (hpre : early ++ [s] <+: stirs) {v : Visit C}
    (h : v ∈ (stir router parties s (after router parties A crowd early) :
      Outcome (Crowd W C) T C A Unit).trace.visits) :
    v ∈ (run router parties stirs crowd : Outcome (Crowd W C) T C A Unit).trace.visits := by
  obtain ⟨late, rfl⟩ := hpre
  rw [run_append, run_concat]
  simp only [Trace.visits_append, List.mem_append]
  exact .inl (.inr h)

/-- A handle that a call came back with was made for the owner of its key, by its own last look at
the latest. -/
theorem trip_made {state : State W C} {requests : List (List Request)} {stirs : List (Stir W)}
    {back : Return C} {client : C} (hempty : state.cache = .empty)
    (h : back ∈ (after router parties A (start state requests) stirs).returned)
    (hok : back.result = .ok client) :
    ∃ owner j asked looked left, back.owner = some owner ∧ left ++ [.tick j] <+: stirs ∧
      Trip parties (after router parties A (start state requests)) j back owner client
        asked looked left ∧
      ∃ i entered, entered ++ [.tick i] <+: looked ++ [.tick j] ∧
        Made router parties A (start state requests) i owner client entered := by
  obtain ⟨owner, j, asked, looked, left, howner, hpre, htrip⟩ := trip router parties h hok
  refine ⟨owner, j, asked, looked, left, howner, hpre, htrip, ?_⟩
  rcases made_since router parties List.nil_prefix htrip.cached with hstart | ⟨i, entered, -, hmade⟩
  · change state.cache.find? owner = some client at hstart
    rw [hempty, Cache.find?_empty] at hstart
    cases hstart
  · exact ⟨i, entered, hmade⟩

/-- Every handle is of its owner. Whatever the calls of a router are and however they overlap, and
whatever its collaborators answer and become: what is cached at an address was made at the second
look of a call that had been told that the address owns its key, where this node was asked for its
own address and the handle is its own if that is the owner, and else one around a transport client
that was asked for with that address. No transport client is asked for at any other address than
that of a call at its second look, nor for another service than the one that the router was started
with. So a call comes back with a handle that was made for the owner of its key; if no handle is
built twice, none that was made for an address is got by a call for another; and if this node always
knows itself by one address, the calls for that address are those that get a handle of its own. -/
theorem every_handle_is_of_its_owner (config : Config) (world : W)
    (requests : List (List Request)) (stirs : List (Stir W)) :
    let router := (Router.start parties config world : Router × Trace T C A).1
    let crowd : Crowd W C := start ⟨world, .empty⟩ requests
    let upTo := after router parties A crowd
    let o : Outcome (Crowd W C) T C A Unit := run router parties stirs crowd
    router.serviceName = config.serviceName.getD (parties.serviceName world) ∧
    (∀ address client, o.state.state.cache.find? address = some client →
      ∃ i entered, entered ++ [.tick i] <+: stirs ∧
        Made router parties A crowd i address client entered) ∧
    (∀ early s, early ++ [s] <+: stirs → ∀ service address, .newClient service address ∈
        (stir router parties s (upTo early) : Outcome (Crowd W C) T C A Unit).trace.calls →
      service = router.serviceName ∧
        ∃ i key asked, s = .tick i ∧ Comes parties upTo i key address asked early) ∧
    (∀ back ∈ o.state.returned, ∀ client, back.result = .ok client →
      ∃ owner j asked looked left, back.owner = some owner ∧ left ++ [.tick j] <+: stirs ∧
        Trip parties upTo j back owner client asked looked left ∧
        ∃ i entered, entered ++ [.tick i] <+: looked ++ [.tick j] ∧
          Made router parties A crowd i owner client entered) ∧
    ((o.trace.visits.filterMap Visit.built?).Nodup →
      ∀ back ∈ o.state.returned, ∀ client, back.result = .ok client →
        ∀ address, .built address client ∈ o.trace.visits → back.owner = some address) ∧
    ∀ (me : Address) (isLocal : C → Prop),
      (∀ early, early <+: stirs → ∀ a, (parties.whoAmI (upTo early).state.world).1 = .ok a →
        a = me) →
      (∀ w c, (parties.localClient w).1 = .ok c → isLocal c) →
      (∀ transport w c, (parties.remoteClient transport w).1 = .ok c → ¬ isLocal c) →
      ∀ back ∈ o.state.returned, ∀ client, back.result = .ok client →
        (isLocal client ↔ back.owner = some me) := by
  intro router crowd upTo o
  have hmade (back : Return C) (hback : back ∈ o.state.returned) (client : C)
      (hok : back.result = .ok client) :=
    trip_made router parties (show (⟨world, .empty⟩ : State W C).cache = .empty from rfl) hback hok
  refine ⟨rfl, ?_, ?_, hmade, ?_, ?_⟩
  · intro address client hcached
    rcases made_since router parties List.nil_prefix hcached with hstart | ⟨i, entered, -, hmade⟩
    · cases hstart
    · exact ⟨i, entered, hmade⟩
  · intro early s _ service address hcall
    obtain ⟨hservice, i, key, rfl, hjob⟩ := stir_newClient router parties hcall
    obtain ⟨asked, hcomes⟩ := comes_of_missed hjob
    exact ⟨hservice, i, key, asked, rfl, hcomes⟩
  · intro hfresh back hback client hok address hbuilt
    obtain ⟨owner, j, asked, looked, left, howner, hleft, htrip, i, entered, hentered, hmade⟩ :=
      hmade back hback client hok
    have hvisit : Visit.built owner client ∈ o.trace.visits := by
      refine visits_of_prefix router parties (hentered.trans (htrip.leaves.last.trans hleft)) ?_
      rw [hmade.making.2]
      exact List.mem_singleton_self _
    rw [howner, Leads.built_twice hfresh hvisit hbuilt]
  · intro me isLocal hme hlocal hremote back hback client hok
    obtain ⟨owner, j, asked, looked, left, howner, hleft, htrip, i, entered, hentered, hmade⟩ :=
      hmade back hback client hok
    have hpre : entered <+: stirs :=
      (List.prefix_append _ _).trans (hentered.trans (htrip.leaves.last.trans hleft))
    rw [hmade.making.1.isLocal_iff (hme entered hpre) hlocal hremote, howner, Option.some.injEq]

/-- One caller asks for a key of another node and for one of its own, and another caller for the
first of them meanwhile. -/
theorem a_handle_of_each_kind :
    let cluster := Cluster.start "a" "svc" [("k", "b"), ("l", "a")]
    let stirs : List (Stir Cluster) := [0, 0, 1, 0, 1, 0, 1, 0, 0, 0, 0].map .tick
    let crowd : Crowd Cluster Handle :=
      start ⟨cluster, .empty⟩ [[.get "k", .get "l"], [.get "k"]]
    let o : Outcome _ Wire Handle Empty Unit := run ⟨"kv", true⟩ Cluster.parties stirs crowd
    let remote : Handle := .remote "kv" "b" 1
    let isLocal : Handle → Prop := fun | .inProcess _ => True | .remote .. => False
    o.trace.visits.filterMap Visit.built? = [remote, .inProcess 1] ∧
    o.state.returned.map (·.result.toOption) = [some remote, some (.inProcess 1), some remote] ∧
    (∀ back ∈ o.state.returned, back.result = .ok remote → back.owner = some "b") ∧
    ∀ back ∈ o.state.returned, ∀ client, back.result = .ok client →
      (isLocal client ↔ back.owner = some "a") := by
  intro cluster stirs crowd o remote isLocal
  have hbuilt : o.trace.visits.filterMap Visit.built? = [remote, .inProcess 1] := by
    decide +kernel
  have hresults : o.state.returned.map (·.result.toOption) =
      [some remote, some (.inProcess 1), some remote] := by decide +kernel
  have hknows : ∀ early ∈ stirs.inits, (Cluster.parties.whoAmI
      (after ⟨"kv", true⟩ Cluster.parties Empty crowd early).state.world).1.toOption =
        some "a" := by
    decide +kernel
  obtain ⟨-, -, -, -, hfresh, hnode⟩ := every_handle_is_of_its_owner (A := Empty)
    Cluster.parties ⟨some "kv", true, "info"⟩ cluster [[.get "k", .get "l"], [.get "k"]] stirs
  refine ⟨hbuilt, hresults, ?_, hnode "a" isLocal ?_ ?_ ?_⟩
  · intro back hback hok
    refine hfresh ?_ back hback remote hok "b" ?_
    · change (o.trace.visits.filterMap Visit.built?).Nodup
      rw [hbuilt]
      decide
    · change Visit.built "b" remote ∈ o.trace.visits
      decide +kernel
  · intro early hpre me hme
    have hown := hknows early ((List.mem_inits _ _).mpr hpre)
    change (Cluster.parties.whoAmI
      (after ⟨"kv", true⟩ Cluster.parties Empty crowd early).state.world).1 = .ok me at hme
    rw [hme] at hown
    exact Option.some.inj hown
  · intro w client hmade
    change (Cluster.localClient w).1 = .ok client at hmade
    unfold Cluster.localClient at hmade
    split at hmade <;> cases hmade
    trivial
  · intro wire w client hmade
    change (Cluster.remoteClient wire w).1 = .ok client at hmade
    unfold Cluster.remoteClient at hmade
    split at hmade <;> cases hmade
    exact not_false

end Crowd

end KeyRoute
