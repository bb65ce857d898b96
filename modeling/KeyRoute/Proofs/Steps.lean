-- What each step of a router does, said once. A look-up leaves the cache alone; a visit finds what
-- is there, and only a build and a removal that found something change it.
import KeyRoute.Router.Concurrent

namespace KeyRoute.Router

variable {W T C A : Type} (router : Router) (parties : Collaborators W T C)

theorem count_apply (moves : List Move) (s : State W C) :
    (router.count moves : Act (State W C) T C A Unit) s =
      ⟨(), s, ⟨[], [], router.made moves, []⟩⟩ := rfl

theorem failed_apply {α : Type} (stage : Stage) (notice : Notice) (e : RouteError)
    (s : State W C) :
    (router.failed stage notice e : Act (State W C) T C A (Except RouteError α)) s =
      ⟨.error e, s, ⟨[], [notice], router.made [Sample.up (.routeErrors stage)], []⟩⟩ := by
  unfold failed
  simp only [Act.bind_apply, Act.note_apply, count_apply, Act.pure_apply]
  simp only [Trace.append_empty, Trace.mk_append, List.nil_append, List.append_nil]

/-! ## The look-up -/

theorem resolve_ok {key : String} {during : Act (State W C) T C A Unit} {s : State W C}
    {owner : Address} (h : (parties.lookup key (during s).state.world).1 = .ok owner) :
    router.resolve parties key during s =
      ⟨.ok owner,
        { (during s).state with world := (parties.lookup key (during s).state.world).2 },
        ⟨[.lookup key], [], [], []⟩ ++ (during s).trace⟩ := by
  unfold resolve
  simp only [Act.bind_apply, Act.record_apply, Act.ask, h, Act.pure_apply]
  simp only [Trace.append_empty]

theorem resolve_error {key : String} {during : Act (State W C) T C A Unit} {s : State W C}
    {e : RouteError} (h : (parties.lookup key (during s).state.world).1 = .error e) :
    router.resolve parties key during s =
      ⟨.error e,
        { (during s).state with world := (parties.lookup key (during s).state.world).2 },
        ⟨[.lookup key], [], [], []⟩ ++ ((during s).trace ++
          ⟨[], [.lookupFailed key e], router.made [Sample.up (.routeErrors .lookup)], []⟩)⟩ := by
  unfold resolve
  simp only [Act.bind_apply, Act.record_apply, Act.ask, h, failed_apply]
  rfl

/-! ## The visits of a routing call -/

theorem read_some {owner : Address} {s : State W C} {client : C}
    (h : s.cache.find? owner = some client) :
    (read owner : Act (State W C) T C A (Option (Entry C))) s =
      ⟨some (.existing .fast client), s, ⟨[], [], [], [.found .fast owner client]⟩⟩ := by
  unfold read
  simp only [Act.bind_apply, Act.look_apply, h, Act.visit_apply, Act.pure_apply]
  rfl

theorem read_none {owner : Address} {s : State W C} (h : s.cache.find? owner = none) :
    (read owner : Act (State W C) T C A (Option (Entry C))) s =
      ⟨none, s, ⟨[], [], [], [.missed owner]⟩⟩ := by
  unfold read
  simp only [Act.bind_apply, Act.look_apply, h, Act.visit_apply, Act.pure_apply]
  rfl

/-- A handle is made without a look at the cache, the log or the metrics. -/
theorem make_quiet (owner me : Address) (s : State W C) :
    let o : Outcome (State W C) T C A (Except RouteError C) := router.make parties owner me s
    o.state.cache = s.cache ∧ o.trace.log = [] ∧ o.trace.moves = [] ∧ o.trace.visits = [] := by
  unfold make
  cases kindFor owner me with
  | inProcess => exact ⟨rfl, rfl, rfl, rfl⟩
  | remote =>
    simp only [Act.call, Act.bind_apply, Act.record_apply, Act.ask]
    cases (parties.newClient router.serviceName owner s.world).1 with
    | error e => exact ⟨rfl, rfl, rfl, rfl⟩
    | ok transport => exact ⟨rfl, rfl, rfl, rfl⟩

/-- The line that tells why a handle could not be built. -/
def failureNotice (owner : Address) : Stage → RouteError → Notice
  | .whoAmI, e => .identityUnknown e
  | _, e => .constructionFailed owner e

/-- All that a build can be. The cache stays; what came of the build is told once and counted once,
by the kind of the handle or by the stage that failed. -/
inductive Building (owner : Address) (s : State W C) :
    Outcome (State W C) T C A (Except RouteError C) → Prop
  | failed (stage : Stage) {e : RouteError} {world : W} {calls : List (Call T A)}
      (h : stage ≠ .lookup) :
      Building owner s ⟨.error e, { s with world := world },
        ⟨calls, [failureNotice owner stage e], router.made [Sample.up (.routeErrors stage)], []⟩⟩
  | built (kind : Kind) {client : C} {world : W} {calls : List (Call T A)} :
      Building owner s ⟨.ok client, { s with world := world },
        ⟨calls, [.created kind owner], router.made [Sample.up (.created kind)], []⟩⟩

theorem building (owner : Address) (s : State W C) :
    router.Building owner s (router.build parties owner s : Outcome (State W C) T C A _) := by
  unfold build
  simp only [Act.call, Act.bind_apply, Act.record_apply, Act.ask]
  cases (parties.whoAmI s.world).1 with
  | error e =>
    simp only [failed_apply]
    exact .failed .whoAmI (by decide)
  | ok me =>
    obtain ⟨hc, hl, hm, hv⟩ := router.make_quiet (A := A) parties owner me
      { s with world := (parties.whoAmI s.world).2 }
    simp only [Act.bind_apply]
    revert hc hl hm hv
    generalize (router.make parties owner me { s with world := (parties.whoAmI s.world).2 } :
      Outcome (State W C) T C A _) = o
    obtain ⟨answer, ⟨world, cache⟩, ⟨calls, log, moves, visits⟩⟩ := o
    rintro rfl rfl rfl rfl
    cases answer with
    | error e =>
      simp only [failed_apply]
      exact .failed .construct (by decide)
    | ok client =>
      simp only [Act.bind_apply, Act.note_apply, count_apply, Act.pure_apply, Trace.append_empty,
        Trace.mk_append, List.nil_append, List.append_nil]
      exact .built (kindFor owner me)

namespace Building

variable {router} {owner : Address} {s : State W C}
  {o : Outcome (State W C) T C A (Except RouteError C)}

theorem cache (h : router.Building owner s o) : o.state.cache = s.cache := by
  cases h <;> rfl

theorem visits (h : router.Building owner s o) : o.trace.visits = [] := by
  cases h <;> rfl

end Building

theorem enter_some {owner : Address} {s : State W C} {client : C}
    (h : s.cache.find? owner = some client) :
    (router.enter parties owner : Act (State W C) T C A _) s =
      ⟨.ok (.existing .recheck client), s, ⟨[], [], [], [.found .recheck owner client]⟩⟩ := by
  unfold enter
  simp only [Act.bind_apply, Act.look_apply, h, Act.visit_apply, Act.pure_apply]
  rfl

theorem enter_error {owner : Address} {s : State W C} {e : RouteError}
    (h : s.cache.find? owner = none)
    (hb : (router.build parties owner s : Outcome (State W C) T C A _).answer = .error e) :
    (router.enter parties owner : Act (State W C) T C A _) s =
      ⟨.error e, (router.build parties owner s : Outcome (State W C) T C A _).state,
        (router.build parties owner s).trace ++ ⟨[], [], [], [.failed owner e]⟩⟩ := by
  unfold enter
  simp only [Act.bind_apply, Act.look_apply, h, hb, Act.visit_apply, Act.pure_apply]
  rfl

theorem enter_ok {owner : Address} {s : State W C} {client : C}
    (h : s.cache.find? owner = none)
    (hb : (router.build parties owner s : Outcome (State W C) T C A _).answer = .ok client) :
    (router.enter parties owner : Act (State W C) T C A _) s =
      ⟨.ok (.inserted client),
        { (router.build parties owner s : Outcome (State W C) T C A _).state with
          cache := s.cache.insert owner client },
        (router.build parties owner s).trace ++
          ⟨[], [], router.made [Sample.up .cachedClients], [.built owner client]⟩⟩ := by
  have hc := (router.building (A := A) parties owner s).cache
  unfold enter
  simp only [Act.bind_apply, Act.look_apply, h, hb, Act.change_apply, count_apply,
    Act.visit_apply, Act.pure_apply, hc]
  simp only [Trace.empty_append, Trace.append_empty, Trace.mk_append, List.nil_append,
    List.append_nil]

/-! ## Removal -/

theorem withdraw_there {address : Address} {s : State W C} (h : s.cache.contains address = true) :
    (router.withdraw address : Act (State W C) T C A Bool) s =
      ⟨true, { s with cache := s.cache.erase address },
        ⟨[], [], router.made [Sample.down .cachedClients], [.removed address true]⟩⟩ := by
  unfold withdraw
  simp only [Act.bind_apply, Act.look_apply, h, if_true, Act.change_apply, count_apply,
    Act.visit_apply, Act.pure_apply]
  simp only [Trace.empty_append, Trace.append_empty, Trace.mk_append, List.nil_append,
    List.append_nil]

theorem withdraw_absent {address : Address} {s : State W C}
    (h : s.cache.contains address = false) :
    (router.withdraw address : Act (State W C) T C A Bool) s =
      ⟨false, s, ⟨[], [], [], [.removed address false]⟩⟩ := by
  unfold withdraw
  simp only [Act.bind_apply, Act.look_apply, h, Bool.false_eq_true, if_false, Act.visit_apply,
    Act.pure_apply]
  rfl

theorem report_apply (address : Address) (s : State W C) :
    (router.report address : Act (State W C) T C A Unit) s =
      ⟨(), s, ⟨[], [.evicted address], router.made [Sample.up .evictions], []⟩⟩ := by
  unfold report
  simp only [Act.bind_apply, count_apply, Act.note_apply]
  simp only [Trace.mk_append, List.nil_append, List.append_nil]

theorem leave_apply (entry : Entry C) (s : State W C) :
    (router.leave entry : Act (State W C) T C A C) s =
      ⟨entry.client, s, ⟨[], [], router.made [entry.sample.up], []⟩⟩ := by
  unfold leave
  simp only [Act.bind_apply, count_apply, Act.pure_apply, Trace.append_empty]

/-- What is said of a change before anything is done. -/
def notices (change : Change) : List Notice :=
  if change.malformed then [.changeSkipped change.status]
  else if change.status.unreachable then [.memberUnreachable change]
  else []

/-- A change takes a handle away if it evicts; only the log shows it yet. -/
theorem judge_apply (change : Change) (s : State W C) :
    (judge change : Act (State W C) T C A (Option Address)) s =
      ⟨if change.evicts then some change.address else none, s, ⟨[], notices change, [], []⟩⟩ := by
  unfold judge notices Change.evicts
  cases change.malformed with
  | true => rfl
  | false => cases change.status.unreachable <;> rfl

/-! ## Whole operations -/

theorem probe_some {owner : Address} {s : State W C} {client : C}
    (h : s.cache.find? owner = some client) :
    (router.probe owner : Act (State W C) T C A (Option C)) s =
      ⟨some client, s,
        ⟨[], [], router.made [Sample.up (.hits .fast)], [.found .fast owner client]⟩⟩ := by
  unfold probe
  simp only [Act.bind_apply, read_some h, leave_apply, Act.pure_apply]
  simp only [Trace.append_empty, Trace.mk_append, List.nil_append, List.append_nil]
  rfl

theorem probe_none {owner : Address} {s : State W C} (h : s.cache.find? owner = none) :
    (router.probe owner : Act (State W C) T C A (Option C)) s =
      ⟨none, s, ⟨[], [], [], [.missed owner]⟩⟩ := by
  unfold probe
  simp only [Act.bind_apply, read_none h, Act.pure_apply]
  rfl

theorem ensure_error {owner : Address} {s : State W C} {e : RouteError}
    (h : s.cache.find? owner = none)
    (hb : (router.build parties owner s : Outcome (State W C) T C A _).answer = .error e) :
    (router.ensure parties owner : Act (State W C) T C A _) s =
      ⟨.error e, (router.build parties owner s : Outcome (State W C) T C A _).state,
        (router.build parties owner s).trace ++ ⟨[], [], [], [.failed owner e]⟩⟩ := by
  unfold ensure
  simp only [Act.bind_apply, enter_error router parties h hb, Act.pure_apply,
    Trace.append_empty]

theorem ensure_ok {owner : Address} {s : State W C} {client : C}
    (h : s.cache.find? owner = none)
    (hb : (router.build parties owner s : Outcome (State W C) T C A _).answer = .ok client) :
    (router.ensure parties owner : Act (State W C) T C A _) s =
      ⟨.ok client,
        { (router.build parties owner s : Outcome (State W C) T C A _).state with
          cache := s.cache.insert owner client },
        (router.build parties owner s).trace ++
          ⟨[], [], router.made [Sample.up .cachedClients] ++ router.made [Sample.up .misses],
            [.built owner client]⟩⟩ := by
  unfold ensure
  simp only [Act.bind_apply, enter_ok router parties h hb, leave_apply, Act.pure_apply]
  simp only [Trace.append_empty, Trace.append_assoc, Trace.mk_append, List.append_nil]
  rfl

/-- The state of a router that was told who owns a key. -/
def asked (key : String) (s : State W C) : State W C :=
  { s with world := (parties.lookup key s.world).2 }

theorem get_lost {key : String} {during : Act (State W C) T C A Unit} {s : State W C}
    {e : RouteError} (h : (parties.lookup key (during s).state.world).1 = .error e) :
    router.get parties key during s =
      ⟨.error e, asked parties key (during s).state,
        ⟨[.lookup key], [], [], []⟩ ++ ((during s).trace ++
          ⟨[], [.lookupFailed key e], router.made [Sample.up (.routeErrors .lookup)], []⟩)⟩ := by
  unfold get
  simp only [Act.bind_apply, resolve_error router parties h, Act.pure_apply, Trace.append_empty]
  rfl

theorem get_held {key : String} {during : Act (State W C) T C A Unit} {s : State W C}
    {owner : Address} {client : C} (h : (parties.lookup key (during s).state.world).1 = .ok owner)
    (hheld : (during s).state.cache.find? owner = some client) :
    router.get parties key during s =
      ⟨.ok client, asked parties key (during s).state,
        ⟨[.lookup key], [], [], []⟩ ++ ((during s).trace ++
          ⟨[], [], router.made [Sample.up (.hits .fast)], [.found .fast owner client]⟩)⟩ := by
  have hprobe := probe_some (T := T) (A := A) router (s := asked parties key (during s).state) hheld
  unfold get asked at *
  simp only [Act.bind_apply, resolve_ok router parties h, hprobe, Act.pure_apply,
    Trace.append_empty, Trace.append_assoc]

/-- Where no handle is held, the second look fills the gap. -/
theorem get_missing {key : String} {during : Act (State W C) T C A Unit} {s : State W C}
    {owner : Address} (h : (parties.lookup key (during s).state.world).1 = .ok owner)
    (hmissing : (during s).state.cache.find? owner = none) :
    router.get parties key during s =
      let e : Outcome (State W C) T C A _ :=
        router.ensure parties owner (asked parties key (during s).state)
      ⟨e.answer, e.state, ⟨[.lookup key], [], [], []⟩ ++ ((during s).trace ++
        (⟨[], [], [], [.missed owner]⟩ ++ e.trace))⟩ := by
  have hprobe := probe_none (T := T) (A := A) router (s := asked parties key (during s).state)
    hmissing
  unfold get asked at *
  simp only [Act.bind_apply, resolve_ok router parties h, hprobe, Trace.append_assoc]

theorem remove_there {address : Address} {s : State W C} (h : s.cache.contains address = true) :
    (router.remove address : Act (State W C) T C A Bool) s =
      ⟨true, { s with cache := s.cache.erase address },
        ⟨[], [.evicted address],
          router.made [Sample.down .cachedClients] ++ router.made [Sample.up .evictions],
          [.removed address true]⟩⟩ := by
  unfold remove
  simp only [Act.bind_apply, withdraw_there router h, if_true, report_apply, Act.pure_apply]
  simp only [Trace.append_empty, Trace.mk_append, List.nil_append, List.append_nil]

theorem remove_absent {address : Address} {s : State W C}
    (h : s.cache.contains address = false) :
    (router.remove address : Act (State W C) T C A Bool) s =
      ⟨false, s, ⟨[], [], [], [.removed address false]⟩⟩ := by
  unfold remove
  simp only [Act.bind_apply, withdraw_absent router h, Bool.false_eq_true, if_false,
    Act.pure_apply, Trace.append_empty]

end KeyRoute.Router
