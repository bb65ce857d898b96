-- Look-ups that call back. While a routing call waits for the owner of its key, the membership
-- layer may do anything on the same router, with routing calls whose look-ups call back in turn.
-- The call has not looked at the router yet, so all of that comes before it: the same comes of it
-- if it runs first and the call is made after it, but that the call's own question was asked at the
-- beginning.
import KeyRoute.Proofs.Failures
import KeyRoute.Proofs.History
import KeyRoute.Proofs.Sequential

namespace KeyRoute

variable {W T C A N : Type}

/-! ## Programs without callbacks -/

mutual

/-- The same operations, one after the other: what would run inside a look-up runs before the call.
-/
def Op.unroll : Op N → List (Op N)
  | .get key during => Op.unrollAll during ++ [.get key []]
  | .remove address => [.remove address]
  | .handle events => [.handle events]
  | .contains address => [.contains address]
  | .size => [.size]
  | .addresses => [.addresses]
  | .service => [.service]
  | .remark content => [.remark content]

def Op.unrollAll : List (Op N) → List (Op N)
  | [] => []
  | op :: ops => op.unroll ++ Op.unrollAll ops

end

theorem Op.allRequests_append (ops more : List (Op N)) :
    allRequests (ops ++ more) = allRequests ops ++ allRequests more := by
  induction ops with
  | nil => rfl
  | cons op ops ih => simp only [List.cons_append, allRequests, ih, List.append_assoc]

mutual

/-- The router is asked for the same in the same order. -/
theorem Op.requests_unroll (op : Op N) : allRequests op.unroll = op.requests := by
  cases op with
  | get key during =>
    rw [unroll, allRequests_append, allRequests_unroll during, requests]
    rfl
  | remove | contains | size | addresses | service | remark => rfl
  | handle events => simp [unroll, allRequests, requests]

theorem Op.allRequests_unroll (ops : List (Op N)) : allRequests (unrollAll ops) = allRequests ops := by
  cases ops with
  | nil => rfl
  | cons op ops =>
    rw [unrollAll, allRequests_append, requests_unroll op, allRequests_unroll ops, allRequests]

end

/-! ## Traces without what the membership layer is answered -/

/-- The calls that a router made to its collaborators. -/
def Trace.outward (trace : Trace T C A) : List (Call T A) := trace.calls.filter (!·.isInner)

theorem Trace.outward_append (a b : Trace T C A) : (a ++ b).outward = a.outward ++ b.outward :=
  List.filter_append ..

/-- The traces are the same but for what the membership layer was answered. -/
structure Trace.SameOutward (a b : Trace T C A) : Prop where
  outward : a.outward = b.outward
  log : a.log = b.log
  moves : a.moves = b.moves
  visits : a.visits = b.visits

namespace Router

variable (router : Router) (parties : Collaborators W T C)

/-! ## Programs -/

theorem runAll_append (ops more : List (Op N)) (s : State W C) :
    (router.runAll parties (ops ++ more) : Act (State W C) T C (Answer C N) _) s =
      let a : Outcome (State W C) T C (Answer C N) _ := router.runAll parties ops s
      let b : Outcome (State W C) T C (Answer C N) _ := router.runAll parties more a.state
      ⟨a.answer ++ b.answer, b.state, a.trace ++ b.trace⟩ := by
  induction ops generalizing s with
  | nil => rfl
  | cons op ops ih =>
    simp only [List.cons_append, runAll, Act.bind_apply, Act.pure_apply, ih, Trace.append_empty,
      Trace.append_assoc]

/-- To run in a look-up is to run, but that the answers go to the membership layer. -/
theorem runDuring_runs (ops : List (Op N)) (s : State W C) :
    let d : Outcome (State W C) T C (Answer C N) Unit := router.runDuring parties ops s
    let p : Outcome (State W C) T C (Answer C N) _ := router.runAll parties ops s
    d.state = p.state ∧ d.trace.SameOutward p.trace := by
  induction ops generalizing s with
  | nil => exact ⟨rfl, rfl, rfl, rfl, rfl⟩
  | cons op ops ih =>
    obtain ⟨hstate, houtward, hlog, hmoves, hvisits⟩ :=
      ih (router.run parties op s : Outcome (State W C) T C (Answer C N) _).state
    simp only [runDuring, runAll, Act.bind_apply, Act.record_apply, Act.pure_apply,
      Trace.append_empty]
    refine ⟨hstate, ?_, ?_, ?_, ?_⟩
    · simp only [Trace.outward_append, houtward]
      rfl
    · simp only [Trace.log_append, hlog, List.nil_append]
    · simp only [Trace.moves_append, hmoves, List.nil_append]
    · simp only [Trace.visits_append, hvisits, List.nil_append]

/-! ## The call -/

theorem Making.outward {router : Router} {parties : Collaborators W T C} {owner : Address} {w w' : W}
    {calls : List (Call T A)} {result : Except RouteError C}
    (h : router.Making parties owner w calls result w') : calls.filter (!·.isInner) = calls := by
  cases h <;> rfl

/-- A handle that was built is put where none was. -/
theorem get_built {key : String} {during : Act (State W C) T C A Unit} {s : State W C}
    {owner : Address} {client : C} (h : (parties.lookup key (during s).state.world).1 = .ok owner)
    (hmissing : (during s).state.cache.find? owner = none)
    (hb : (router.build parties owner (asked parties key (during s).state) :
      Outcome (State W C) T C A _).answer = .ok client) :
    (router.get parties key during s).state.cache =
      (during s).state.cache.insert owner client := by
  rw [router.get_missing parties h hmissing]
  simp only [router.ensure_ok parties (s := asked parties key (during s).state) hmissing hb]
  rfl

variable (key : String) (during : List (Op N)) (s : State W C)

/-- A call whose look-up calls back comes after what it runs. -/
theorem run_get_after :
    let o : Outcome (State W C) T C (Answer C N) _ := router.run parties (.get key during) s
    let p : Outcome (State W C) T C (Answer C N) _ := router.runAll parties during s
    let g : Outcome (State W C) T C (Answer C N) _ := router.run parties (.get key []) p.state
    o.answer = g.answer ∧ o.state = g.state ∧
      ∃ rest : Trace T C (Answer C N), g.trace = ⟨[.lookup key], [], [], []⟩ ++ rest ∧
        o.trace.SameOutward (⟨[.lookup key], [], [], []⟩ ++ (p.trace ++ rest)) := by
  intro o p g
  obtain ⟨hstate, houtward, hlog, hmoves, hvisits⟩ := router.runDuring_runs parties during s
  obtain ⟨hanswer, hlast, rest, hg, ho⟩ :=
    router.get_between parties (router.runDuring parties during) key s
  rw [hstate] at hanswer hlast hg
  have hot : o.trace = ⟨[.lookup key], [], [], []⟩ ++
      ((router.runDuring parties during s : Outcome (State W C) T C (Answer C N) Unit).trace ++
        rest) := by
    rw [← ho]
    exact Trace.append_empty _
  have hgt : g.trace = ⟨[.lookup key], [], [], []⟩ ++ rest := by
    rw [← hg]
    exact Trace.append_empty _
  refine ⟨congrArg Answer.got hanswer, hlast, rest, hgt, ?_⟩
  rw [hot]
  constructor
  · simp only [Trace.outward_append, houtward, p]
  · simp only [Trace.log_append, hlog, p]
  · simp only [Trace.moves_append, hmoves, p]
  · simp only [Trace.visits_append, hvisits, p]

/-- Without callbacks the same comes of it, and the call answers last. -/
theorem run_get_unrolled :
    let o : Outcome (State W C) T C (Answer C N) _ := router.run parties (.get key during) s
    let f : Outcome (State W C) T C (Answer C N) _ :=
      router.runAll parties (Op.unroll (.get key during)) s
    f.answer.getLast? = some o.answer ∧ f.state = o.state ∧ f.trace.Alike o.trace := by
  intro o f
  obtain ⟨hstate, halike⟩ := router.run_alike parties (.get key during) s
  obtain ⟨hstate', halike'⟩ := router.runAll_alike parties (Op.unroll (.get key during)) s
  rw [Op.requests_unroll] at hstate' halike'
  refine ⟨?_, hstate'.trans hstate.symm, halike'.trans halike.symm⟩
  obtain ⟨hbefore, -⟩ := router.runAll_alike parties during s
  obtain ⟨hbefore', -⟩ := router.runAll_alike parties (Op.unrollAll during) s
  rw [Op.allRequests_unroll, ← hbefore] at hbefore'
  simp only [f, Op.unroll, runAll_append, hbefore', (router.run_get_after parties key during s).1, o]
  exact List.getLast?_concat ..

/-- A plain call for an address that is cached asks for nothing more. -/
theorem run_get_held {owner : Address} {client : C} (h : (parties.lookup key s.world).1 = .ok owner)
    (hheld : s.cache.find? owner = some client) :
    let g : Outcome (State W C) T C (Answer C N) _ := router.run parties (.get key []) s
    g.answer = .got (.ok client) ∧ g.state.cache = s.cache ∧ g.trace.outward = [.lookup key] ∧
      g.trace.moves = router.made [Sample.up (.hits .fast)] := by
  intro g
  have hg := @get_held W T C (Answer C N) router parties key (router.runDuring parties []) s owner
    client h hheld
  simp only [g, run, Act.bind_apply, hg]
  exact ⟨rfl, rfl, rfl, List.append_nil _⟩

/-- A plain call for an address that is not cached makes a handle. -/
theorem run_get_missing {owner : Address} (h : (parties.lookup key s.world).1 = .ok owner)
    (hmissing : s.cache.find? owner = none) :
    let g : Outcome (State W C) T C (Answer C N) _ := router.run parties (.get key []) s
    ∃ calls result,
      router.Making parties owner (asked parties key s).world calls result g.state.world ∧
      g.answer = .got result ∧ g.trace.outward = .lookup key :: calls ∧
      (∀ e, result = .error e → g.state.cache = s.cache) ∧
      ∀ client, result = .ok client → g.state.cache = s.cache.insert owner client := by
  intro g
  obtain ⟨hmaking, -⟩ := router.build_asks (A := Answer C N) parties owner (asked parties key s)
  obtain ⟨hanswer, hworld, hcalls, hfailed⟩ := @get_of_build W T C (Answer C N) router parties key
    (router.runDuring parties []) s owner h hmissing
  have hbuilt (client : C) := @get_built W T C (Answer C N) router parties key
    (router.runDuring parties []) s owner client h hmissing
  let b : Outcome (State W C) T C (Answer C N) (Except RouteError C) :=
    router.build parties owner (asked parties key s)
  refine ⟨b.trace.calls, b.answer, ?_, congrArg Answer.got hanswer, ?_, fun e he => (hfailed e he).1,
    hbuilt⟩
  · rw [show g.state.world = _ from hworld]
    exact hmaking
  · have hall : g.trace.calls = .lookup key :: _ := (List.append_nil _).trans hcalls
    unfold Trace.outward
    rw [hall]
    exact congrArg (.lookup key :: ·) hmaking.outward

/-- A routing call looks at its router only when it knows who owns its key. Whatever the membership
layer does on the router before it tells that, to any depth, comes before the call: the call gets
and leaves what it would get and leave if it were made after it, with the same lines and the same
metrics, and the same calls to the collaborators, but that its own question comes first. A program
without callbacks does the same. So if the handle is in the cache when the owner is told, the call
finds it at its first look and asks for nothing more; and if it is not, be it that it was just
evicted, the call makes a new one. -/
theorem what_a_look_up_runs_comes_before_the_call :
    let r : Outcome (State W C) T C (Answer C N) _ :=
      router.resolve parties key (router.runDuring parties during) s
    let o : Outcome (State W C) T C (Answer C N) _ := router.run parties (.get key during) s
    let p : Outcome (State W C) T C (Answer C N) _ := router.runAll parties during s
    let g : Outcome (State W C) T C (Answer C N) _ := router.run parties (.get key []) p.state
    let f : Outcome (State W C) T C (Answer C N) _ :=
      router.runAll parties (Op.unroll (.get key during)) s
    (r.state.cache = p.state.cache ∧ r.trace.visits = p.trace.visits) ∧
    o.answer = g.answer ∧ o.state = g.state ∧
    o.trace.log = p.trace.log ++ g.trace.log ∧
    o.trace.moves = p.trace.moves ++ g.trace.moves ∧
    o.trace.visits = p.trace.visits ++ g.trace.visits ∧
    (∃ asked, g.trace.outward = .lookup key :: asked ∧
      o.trace.outward = .lookup key :: (p.trace.outward ++ asked)) ∧
    (f.answer.getLast? = some o.answer ∧ f.state = o.state ∧ f.trace.log = o.trace.log ∧
      f.trace.moves = o.trace.moves ∧ f.trace.visits = o.trace.visits ∧
      f.trace.outward.Perm o.trace.outward) ∧
    ∀ owner, (parties.lookup key p.state.world).1 = .ok owner →
      (∀ client, p.state.cache.find? owner = some client →
        o.answer = .got (.ok client) ∧ o.state.cache = p.state.cache ∧
        o.trace.outward = .lookup key :: p.trace.outward ∧
        o.trace.moves = p.trace.moves ++ router.made [Sample.up (.hits .fast)]) ∧
      (p.state.cache.find? owner = none → ∃ calls result,
        router.Making parties owner (asked parties key p.state).world calls result o.state.world ∧
        o.answer = .got result ∧ o.trace.outward = .lookup key :: (p.trace.outward ++ calls) ∧
        (∀ e, result = .error e → o.state.cache = p.state.cache) ∧
        ∀ client, result = .ok client → o.state.cache = p.state.cache.insert owner client) := by
  intro r o p g f
  obtain ⟨hanswer, hstate, rest, hg, ho⟩ :=
    router.run_get_after (T := T) parties key during s
  have hquestion : (⟨[.lookup key], [], [], []⟩ : Trace T C (Answer C N)).outward =
    [.lookup key] := rfl
  have houtward : o.trace.outward = .lookup key :: (p.trace.outward ++ rest.outward) := by
    rw [ho.outward, Trace.outward_append, Trace.outward_append, hquestion, List.singleton_append]
  have hplain : g.trace.outward = .lookup key :: rest.outward := by
    rw [show g.trace = _ from hg, Trace.outward_append, hquestion, List.singleton_append]
  have hmoves : o.trace.moves = p.trace.moves ++ g.trace.moves := by
    rw [ho.moves, show g.trace = _ from hg]
    rfl
  refine ⟨?_, hanswer, hstate, ?_, hmoves, ?_, ⟨rest.outward, hplain, houtward⟩, ?_, ?_⟩
  · obtain ⟨hp, hsame⟩ := router.runDuring_runs (T := T) parties during s
    obtain ⟨-, hr, hcache, rest, hnone, -, hrt⟩ :=
      router.resolve_between (T := T) parties (router.runDuring parties during) key s
    refine ⟨?_, ?_⟩
    · rw [show r.state = _ from hr, hcache, hp]
    · rw [show r.trace = _ from hrt, Trace.visits_append, Trace.visits_append, hnone, hsame.visits,
        List.nil_append, List.append_nil]
  · rw [ho.log, show g.trace = _ from hg]
    rfl
  · rw [ho.visits, show g.trace = _ from hg]
    rfl
  · obtain ⟨hlast, hsame, halike⟩ := router.run_get_unrolled (T := T) parties key during s
    exact ⟨hlast, hsame, halike.log, halike.moves, halike.visits, halike.calls⟩
  · intro owner howner
    rw [hanswer, hstate, houtward, hmoves]
    constructor
    · intro client hheld
      obtain ⟨hgot, hcache, hall, hhit⟩ := router.run_get_held (N := N) parties key p.state howner hheld
      have hnone : rest.outward = [] := by simpa using hplain.symm.trans hall
      rw [hnone, List.append_nil, show g.trace.moves = _ from hhit]
      exact ⟨hgot, hcache, rfl, rfl⟩
    · intro hmissing
      obtain ⟨calls, result, hmaking, hgot, hall, hfailed, hbuilt⟩ :=
        router.run_get_missing (N := N) parties key p.state howner hmissing
      have hasked : rest.outward = calls := by simpa using hplain.symm.trans hall
      exact ⟨calls, result, hmaking, hgot, by rw [hasked], hfailed, hbuilt⟩

/-- During the look-up of `k` another call removes a handle that is not there and builds it, so the
first call finds it; or the handle that it had found is evicted, so the first call builds another.
-/
theorem a_call_back_builds_or_evicts :
    let router : Router := ⟨"svc", true⟩
    let cluster := Cluster.start "a" "svc" [("k", "b"), ("l", "b")]
    let building : List (Op Empty) := [.get "l" [.remove "b"], .contains "b"]
    let evicting : List (Op Empty) := [.get "l" [], .handle [.changes [.new "b" .faulty]]]
    let held : Cache Handle := ⟨[("b", .remote "svc" "b" 7)]⟩
    let call (during : List (Op Empty)) (cache : Cache Handle) :
        Outcome (State Cluster Handle) Wire Handle (Answer Handle Empty) (Answer Handle Empty) :=
      router.run Cluster.parties (.get "k" during) ⟨cluster, cache⟩
    (call building .empty).answer = .got (.ok (.remote "svc" "b" 1)) ∧
    (call building .empty).trace.outward =
      [.lookup "k", .lookup "l", .whoAmI, .newClient "svc" "b", .remoteClient ⟨"svc", "b"⟩] ∧
    (call building .empty).trace.moves = [Sample.up (.created .remote), Sample.up .cachedClients,
      Sample.up .misses, Sample.up (.hits .fast)] ∧
    (call evicting held).answer = .got (.ok (.remote "svc" "b" 1)) ∧
    (call evicting held).state.cache.find? "b" = some (.remote "svc" "b" 1) ∧
    (call evicting held).trace.log = [.memberUnreachable (.new "b" .faulty), .evicted "b",
      .created .remote "b"] := by
  intro router cluster building evicting held call
  have h := what_a_look_up_runs_comes_before_the_call (T := Wire) (N := Empty) router
    Cluster.parties "k"
  obtain ⟨-, -, -, -, -, -, -, -, hbuilding⟩ := h building ⟨cluster, .empty⟩
  obtain ⟨hgot, -, houtward, hmoves⟩ :=
    (hbuilding "b" (by decide +kernel)).1 (.remote "svc" "b" 1) (by decide +kernel)
  obtain ⟨-, -, -, hlog, -, -, -, -, hevicting⟩ := h evicting ⟨cluster, held⟩
  obtain ⟨calls, result, -, hresult, -, -, hinsert⟩ :=
    (hevicting "b" (by decide +kernel)).2 (by decide +kernel)
  have hbuilt : (call evicting held).answer = .got (.ok (.remote "svc" "b" 1)) := by decide +kernel
  have hok : result = .ok (.remote "svc" "b" 1) := Answer.got.inj (hresult.symm.trans hbuilt)
  refine ⟨hgot, houtward.trans (by decide +kernel), hmoves.trans (by decide +kernel), hbuilt, ?_,
    hlog.trans (by decide +kernel)⟩
  rw [hinsert _ hok]
  decide +kernel

end Router

end KeyRoute
