-- Operations one at a time. A thread that nobody comes in between does what its requests ask for,
-- and what runs inside a look-up might as well run before it. So every program of operations,
-- however deep its look-ups call back, is one thread.
import KeyRoute.Proofs.Crowds
import KeyRoute.Router.Program

namespace KeyRoute

variable {W T C A N : Type}

/-! ## Requests as whole operations -/

namespace Router

variable (router : Router) (parties : Collaborators W T C)

/-- Does what a request asks for, in one go. -/
def serve : Request → Act (State W C) T C A (List (Return C))
  | .get key => do
    let owner ← Act.look fun s => (parties.lookup key s.world).1.toOption
    let result ← router.get parties key (pure ())
    return [⟨key, owner, result⟩]
  | .remove address => do
    let _ ← router.remove address
    return []
  | .handle event => do
    router.handle event
    return []

/-- Serves requests one after the other. -/
def serveAll : List Request → Act (State W C) T C A (List (Return C))
  | [] => return []
  | request :: requests => do
    let first ← router.serve parties request
    let rest ← serveAll requests
    return first ++ rest

theorem serveAll_append (requests more : List Request) (s : State W C) :
    (router.serveAll parties (requests ++ more) : Act (State W C) T C A _) s =
      let a : Outcome (State W C) T C A _ := router.serveAll parties requests s
      let b : Outcome (State W C) T C A _ := router.serveAll parties more a.state
      ⟨a.answer ++ b.answer, b.state, a.trace ++ b.trace⟩ := by
  induction requests generalizing s with
  | nil => rfl
  | cons request requests ih =>
    simp only [List.cons_append, serveAll, Act.bind_apply, Act.pure_apply, ih,
      Trace.append_empty, Trace.append_assoc, List.append_assoc]

/-! ## Steps with nobody in between -/

/-- What the jobs of a thread come to, step by step, if no other thread takes one. -/
inductive Alone : List (Job C) → State W C → Outcome (State W C) T C A (List (Return C)) → Prop
  | done (s : State W C) : Alone [] s ⟨[], s, .empty⟩
  | step {job : Job C} {jobs : List (Job C)} {s : State W C}
      {rest : Outcome (State W C) T C A (List (Return C))}
      (h : Alone ((router.work parties job s : Outcome (State W C) T C A _).answer.jobs ++ jobs)
        (router.work parties job s : Outcome (State W C) T C A _).state rest) :
      Alone (job :: jobs) s
        ⟨(router.work parties job s : Outcome (State W C) T C A _).answer.returned ++ rest.answer,
          rest.state, (router.work parties job s).trace ++ rest.trace⟩

section

variable {router parties} {jobs : List (Job C)} {s : State W C}
  {rest : Outcome (State W C) T C A (List (Return C))}

theorem Alone.of_work {job : Job C} {o : Outcome (State W C) T C A (Thread C)}
    (ho : router.work parties job s = o)
    (h : router.Alone parties (o.answer.jobs ++ jobs) o.state rest) :
    router.Alone parties (job :: jobs) s
      ⟨o.answer.returned ++ rest.answer, rest.state, o.trace ++ rest.trace⟩ := by
  subst ho
  exact .step h

/-- A call that has its handle or its error comes back with it. -/
theorem alone_error {key : String} {owner : Option Address} {e : RouteError}
    (h : router.Alone parties jobs s rest) :
    router.Alone parties (.get (.leaving key owner (.error e)) :: jobs) s
      ⟨⟨key, owner, .error e⟩ :: rest.answer, rest.state, rest.trace⟩ :=
  Alone.of_work (o := ⟨⟨[], [⟨key, owner, .error e⟩]⟩, s, .empty⟩) rfl h

theorem alone_entry {key : String} {owner : Option Address} {entry : Entry C}
    (h : router.Alone parties jobs s rest) :
    router.Alone parties (.get (.leaving key owner (.ok entry)) :: jobs) s
      ⟨⟨key, owner, .ok entry.client⟩ :: rest.answer, rest.state,
        ⟨[], [], router.made [entry.sample.up], []⟩ ++ rest.trace⟩ :=
  Alone.of_work (router.work_cameBack parties key owner entry s) h

theorem alone_missed {key : String} {owner : Address}
    (h : router.Alone parties jobs (router.ensure parties owner s : Outcome _ T C A _).state rest) :
    router.Alone parties (.get (.missed key owner) :: jobs) s
      ⟨⟨key, some owner, (router.ensure parties owner s : Outcome _ T C A _).answer⟩ :: rest.answer,
        rest.state, (router.ensure parties owner s).trace ++ rest.trace⟩ := by
  have hw := router.work_enter (A := A) parties key owner s
  unfold ensure at *
  simp only [Act.bind_apply] at *
  revert h hw
  generalize (router.enter parties owner s : Outcome (State W C) T C A _) = o
  intro h hw
  obtain ⟨answer, last, trace⟩ := o
  cases answer with
  | error e =>
    simp only [Act.pure_apply, Trace.append_empty] at h ⊢
    exact Alone.of_work hw (alone_error h)
  | ok entry =>
    simp only [Act.bind_apply, leave_apply, Act.pure_apply, Trace.append_empty,
      Trace.append_assoc] at h ⊢
    exact Alone.of_work hw (alone_entry h)

theorem alone_resolved {key : String} {owner : Address}
    {o : Outcome (State W C) T C A (Except RouteError C)}
    (ho : (do
      match ← router.probe owner with
      | some client => return .ok client
      | none => router.ensure parties owner : Act (State W C) T C A (Except RouteError C)) s = o)
    (h : router.Alone parties jobs o.state rest) :
    router.Alone parties (.get (.resolved key owner) :: jobs) s
      ⟨⟨key, some owner, o.answer⟩ :: rest.answer, rest.state, o.trace ++ rest.trace⟩ := by
  subst ho
  simp only [Act.bind_apply] at *
  cases hf : s.cache.find? owner with
  | some client =>
    simp only [probe_some router hf, Act.pure_apply, Trace.append_empty] at h ⊢
    exact Alone.of_work (router.work_hit parties hf) (alone_entry h)
  | none =>
    simp only [probe_none router hf, Trace.append_assoc] at h ⊢
    exact Alone.of_work (router.work_missed parties hf) (alone_missed h)

theorem alone_get {key : String}
    (h : router.Alone parties jobs
      (router.get parties key (pure ()) s : Outcome _ T C A _).state rest) :
    router.Alone parties (.get (.called key) :: jobs) s
      ⟨⟨key, (parties.lookup key s.world).1.toOption,
          (router.get parties key (pure ()) s : Outcome _ T C A _).answer⟩ :: rest.answer,
        rest.state, (router.get parties key (pure ()) s).trace ++ rest.trace⟩ := by
  unfold get at *
  simp only [Act.bind_apply] at *
  cases hl : (parties.lookup key s.world).1 with
  | error e =>
    have hr := @resolve_error W T C A router parties key (pure ()) s e hl
    simp only [hr, Act.pure_apply, Trace.append_empty] at h ⊢
    exact Alone.of_work (router.work_lost parties hl) (alone_error h)
  | ok owner =>
    have hr := @resolve_ok W T C A router parties key (pure ()) s owner hl
    simp only [hr, Act.pure_apply, Trace.append_empty, Trace.append_assoc] at h ⊢
    exact Alone.of_work (router.work_resolved parties hl) (alone_resolved rfl h)

theorem alone_remove {address : Address}
    (h : router.Alone parties jobs (router.remove address s : Outcome _ T C A _).state rest) :
    router.Alone parties (.remove address :: jobs) s
      ⟨rest.answer, rest.state, (router.remove address s).trace ++ rest.trace⟩ := by
  cases hc : s.cache.contains address with
  | true =>
    simp only [remove_there router hc] at h ⊢
    have hreport := Alone.of_work (router.work_report parties address _) h
    have hremove := Alone.of_work (router.work_removed parties hc) hreport
    simp only [List.nil_append, ← Trace.append_assoc] at hremove
    exact hremove
  | false =>
    simp only [remove_absent router hc] at h ⊢
    exact Alone.of_work (router.work_absent parties hc) h

theorem alone_change {change : Change}
    (h : router.Alone parties jobs (router.applyChange change s : Outcome _ T C A _).state rest) :
    router.Alone parties (.apply change :: jobs) s
      ⟨rest.answer, rest.state, (router.applyChange change s).trace ++ rest.trace⟩ := by
  have hw := router.work_apply (A := A) parties change s
  unfold applyChange at *
  simp only [Act.bind_apply, judge_apply] at *
  cases he : change.evicts with
  | true =>
    simp only [he, if_true, Act.bind_apply, Act.pure_apply, Trace.append_empty,
      Trace.append_assoc] at h hw ⊢
    exact Alone.of_work hw (alone_remove h)
  | false =>
    simp only [he, Bool.false_eq_true, if_false, Act.pure_apply, Trace.append_empty] at h hw ⊢
    exact Alone.of_work hw h

theorem alone_batch (batch : List Change) (s : State W C)
    (h : router.Alone parties jobs (router.applyBatch batch s : Outcome _ T C A _).state rest) :
    router.Alone parties (batch.map .apply ++ jobs) s
      ⟨rest.answer, rest.state, (router.applyBatch batch s).trace ++ rest.trace⟩ := by
  induction batch generalizing s with
  | nil => exact h
  | cons change batch ih =>
    simp only [applyBatch, Act.bind_apply, Trace.append_assoc] at h ⊢
    exact alone_change (ih _ h)

theorem alone_handle {event : Event}
    (h : router.Alone parties jobs (router.handle event s : Outcome _ T C A _).state rest) :
    router.Alone parties (.handle event :: jobs) s
      ⟨rest.answer, rest.state, (router.handle event s).trace ++ rest.trace⟩ := by
  cases event with
  | changes batch =>
    exact Alone.of_work (o := ⟨⟨batch.map .apply, []⟩, s, .empty⟩) rfl (alone_batch batch s h)
  | announcement content =>
    exact Alone.of_work (o := ⟨⟨[], []⟩, s, ⟨[], [.eventIgnored content], [], []⟩⟩) rfl h

end

/-- A thread that nobody comes in between serves its requests. -/
theorem alone_serves (requests : List Request) (s : State W C) :
    router.Alone parties (requests.map Request.job) s
      (router.serveAll parties requests s : Outcome (State W C) T C A _) := by
  induction requests generalizing s with
  | nil => exact .done s
  | cons request requests ih =>
    simp only [List.map_cons, serveAll, Act.bind_apply, Act.pure_apply, Trace.append_empty]
    cases request with
    | get key =>
      simp only [serve, Act.bind_apply, Act.look_apply, Act.pure_apply, Trace.empty_append,
        Trace.append_empty]
      exact alone_get (ih _)
    | remove address =>
      simp only [serve, Act.bind_apply, Act.pure_apply, Trace.append_empty]
      exact alone_remove (ih _)
    | handle event =>
      simp only [serve, Act.bind_apply, Act.pure_apply, Trace.append_empty]
      exact alone_handle (ih _)

end Router

namespace Crowd

variable (router : Router) (parties : Collaborators W T C)

/-- If only one thread takes steps, it finishes, and the others stay where they are. -/
theorem run_alone {jobs : List (Job C)} {s : State W C}
    {o : Outcome (State W C) T C A (List (Return C))} (h : router.Alone parties jobs s o)
    {threads : List (Thread C)} {i : Nat} (earlier : List (Return C)) (hi : i < threads.length) :
    ∃ n, (run router parties (List.replicate n (.tick i)) : Act (Crowd W C) T C A Unit)
        ⟨s, threads.set i ⟨jobs, earlier⟩⟩ =
      ⟨(), ⟨o.state, threads.set i ⟨[], earlier ++ o.answer⟩⟩, o.trace⟩ := by
  induction h generalizing earlier with
  | done s => exact ⟨0, by simp [run, Act.pure_apply]⟩
  | @step job jobs s rest h ih =>
    obtain ⟨n, ih⟩ :=
      ih (earlier ++ (router.work parties job s : Outcome _ T C A _).answer.returned)
    refine ⟨n + 1, ?_⟩
    have htick : (tick router parties i : Act (Crowd W C) T C A Unit)
        ⟨s, threads.set i ⟨job :: jobs, earlier⟩⟩ =
        let a : Outcome (State W C) T C A _ := router.work parties job s
        ⟨(), ⟨a.state, threads.set i ⟨a.answer.jobs ++ jobs, earlier ++ a.answer.returned⟩⟩,
          a.trace⟩ := by
      simp [tick, Thread.step, hi, Act.bind_apply, Act.pure_apply]
    simp only [List.replicate_succ, run, Act.bind_apply, stir_tick, htick, ih, List.append_assoc]

end Crowd

/-! ## Programs with look-ups that call back -/

mutual

/-- What an operation asks of the router: first all that runs inside its look-up. -/
def Op.requests : Op N → List Request
  | .get key during => Op.allRequests during ++ [.get key]
  | .remove address => [.remove address]
  | .handle events => events.map .handle
  | .contains _ | .size | .addresses | .service | .remark _ => []

def Op.allRequests : List (Op N) → List Request
  | [] => []
  | op :: ops => op.requests ++ Op.allRequests ops

end

/-- The answer of an operation that ran inside a look-up. -/
def Call.isInner {A : Type} : Call T A → Bool
  | .inner _ => true
  | _ => false

/-- The traces tell the same of a router. The order of its calls may differ, and what the membership
layer is answered is left out. -/
structure Trace.Alike {A : Type} (a b : Trace T C A) : Prop where
  calls : (a.calls.filter (!·.isInner)).Perm (b.calls.filter (!·.isInner))
  log : a.log = b.log
  moves : a.moves = b.moves
  visits : a.visits = b.visits

namespace Trace.Alike

variable {A : Type} {a b c d : Trace T C A}

theorem refl (a : Trace T C A) : a.Alike a := ⟨.refl _, rfl, rfl, rfl⟩

theorem append (h : a.Alike b) (h' : c.Alike d) : (a ++ c).Alike (b ++ d) where
  calls := by
    simp only [calls_append, List.filter_append]
    exact h.calls.append h'.calls
  log := by rw [log_append, log_append, h.log, h'.log]
  moves := by rw [moves_append, moves_append, h.moves, h'.moves]
  visits := by rw [visits_append, visits_append, h.visits, h'.visits]

theorem trans (h : a.Alike b) (h' : b.Alike c) : a.Alike c :=
  ⟨h.calls.trans h'.calls, h.log.trans h'.log, h.moves.trans h'.moves, h.visits.trans h'.visits⟩

theorem symm (h : a.Alike b) : b.Alike a :=
  ⟨h.calls.symm, h.log.symm, h.moves.symm, h.visits.symm⟩

/-- A call may as well be made later. -/
theorem call_later (call : Call T A) (a : Trace T C A) :
    (⟨[call], [], [], []⟩ ++ a).Alike (a ++ ⟨[call], [], [], []⟩) where
  calls := by
    simp only [calls_append, List.filter_append]
    exact List.perm_append_comm
  log := by simp
  moves := by simp
  visits := by simp

/-- An answer to the membership layer is left out. -/
theorem inner (answer : A) : (⟨[.inner answer], [], [], []⟩ : Trace T C A).Alike .empty :=
  ⟨.refl _, rfl, rfl, rfl⟩

end Trace.Alike

namespace Router

variable (router : Router) (parties : Collaborators W T C)

section

variable {A : Type} (during : Act (State W C) T C A Unit) (key : String) (s : State W C)

/-- What a look-up runs stands between the question and all the rest. -/
theorem resolve_between :
    let d : Outcome (State W C) T C A Unit := during s
    let a : Outcome (State W C) T C A _ := router.resolve parties key during s
    let b : Outcome (State W C) T C A _ := router.resolve parties key (pure ()) d.state
    a.answer = b.answer ∧ a.state = b.state ∧ b.state.cache = d.state.cache ∧
      ∃ rest : Trace T C A, rest.visits = [] ∧ b.trace = ⟨[.lookup key], [], [], []⟩ ++ rest ∧
        a.trace = ⟨[.lookup key], [], [], []⟩ ++ (d.trace ++ rest) := by
  intro d a b
  cases hl : (parties.lookup key d.state.world).1 with
  | error e =>
    have ha : a = _ := router.resolve_error parties hl
    have hb : b = _ := @resolve_error W T C A router parties key (pure ()) d.state e hl
    rw [ha, hb]
    exact ⟨rfl, rfl, rfl, _, rfl, rfl, rfl⟩
  | ok owner =>
    have ha : a = _ := router.resolve_ok parties hl
    have hb : b = _ := @resolve_ok W T C A router parties key (pure ()) d.state owner hl
    rw [ha, hb]
    exact ⟨rfl, rfl, rfl, .empty, rfl, rfl, by rw [Trace.append_empty]⟩

theorem get_between :
    let d : Outcome (State W C) T C A Unit := during s
    let a : Outcome (State W C) T C A _ := router.get parties key during s
    let b : Outcome (State W C) T C A _ := router.get parties key (pure ()) d.state
    a.answer = b.answer ∧ a.state = b.state ∧ ∃ rest : Trace T C A,
      b.trace = ⟨[.lookup key], [], [], []⟩ ++ rest ∧
        a.trace = ⟨[.lookup key], [], [], []⟩ ++ (d.trace ++ rest) := by
  obtain ⟨hanswer, hstate, -, rest, -, hb, ha⟩ := router.resolve_between parties during key s
  unfold get
  simp only [Act.bind_apply]
  rw [hanswer, hstate, ha, hb]
  exact ⟨rfl, rfl, _, Trace.append_assoc .., by rw [Trace.append_assoc, Trace.append_assoc]⟩

/-- What runs inside a look-up might as well run before the call. -/
theorem get_after :
    let d : Outcome (State W C) T C A Unit := during s
    let a : Outcome (State W C) T C A _ := router.get parties key during s
    let b : Outcome (State W C) T C A _ := router.get parties key (pure ()) d.state
    a.answer = b.answer ∧ a.state = b.state ∧ a.trace.Alike (d.trace ++ b.trace) := by
  obtain ⟨hanswer, hstate, rest, hb, ha⟩ := router.get_between parties during key s
  refine ⟨hanswer, hstate, ?_⟩
  rw [ha, hb, ← Trace.append_assoc, ← Trace.append_assoc]
  exact (Trace.Alike.call_later _ _).append (.refl _)

end

theorem serveAll_handles (events : List Event) (s : State W C) :
    (router.serveAll parties (events.map .handle) s : Outcome (State W C) T C A _) =
      let o : Outcome (State W C) T C A _ := router.handleAll events s
      ⟨[], o.state, o.trace⟩ := by
  induction events generalizing s with
  | nil => rfl
  | cons event events ih =>
    simp only [List.map_cons, serveAll, serve, handleAll, Act.bind_apply, Act.pure_apply, ih,
      Trace.append_empty, List.nil_append]

mutual

theorem run_alike (op : Op N) (s : State W C) :
    let a : Outcome (State W C) T C (Answer C N) _ := router.run parties op s
    let b : Outcome (State W C) T C (Answer C N) _ := router.serveAll parties op.requests s
    a.state = b.state ∧ a.trace.Alike b.trace := by
  cases op with
  | get key during =>
    obtain ⟨hstate, htrace⟩ := runDuring_alike during s
    obtain ⟨-, hlast, hafter⟩ := router.get_after parties (router.runDuring parties during) key s
    simp only [run, Op.requests, serveAll_append, serveAll, serve, Act.bind_apply, Act.look_apply,
      Act.pure_apply, Trace.append_empty, Trace.empty_append]
    rw [← hstate]
    exact ⟨hlast, hafter.trans (htrace.append (.refl _))⟩
  | remove address =>
    simp only [run, Op.requests, serveAll, serve, Act.bind_apply, Act.pure_apply,
      Trace.append_empty, true_and]
    exact .refl _
  | handle events =>
    simp only [run, Op.requests, serveAll_handles, Act.bind_apply, Act.pure_apply,
      Trace.append_empty, true_and]
    exact .refl _
  | contains | size | addresses | service | remark => exact ⟨rfl, .refl _⟩

theorem runDuring_alike (ops : List (Op N)) (s : State W C) :
    let a : Outcome (State W C) T C (Answer C N) _ := router.runDuring parties ops s
    let b : Outcome (State W C) T C (Answer C N) _ :=
      router.serveAll parties (Op.allRequests ops) s
    a.state = b.state ∧ a.trace.Alike b.trace := by
  cases ops with
  | nil => exact ⟨rfl, .refl _⟩
  | cons op ops =>
    obtain ⟨hstate, htrace⟩ := run_alike op s
    simp only [runDuring, Op.allRequests, serveAll_append, Act.bind_apply, Act.record_apply]
    rw [← hstate]
    obtain ⟨hlast, hrest⟩ := runDuring_alike ops (router.run parties op s).state
    exact ⟨hlast, htrace.append ((Trace.Alike.inner _).append hrest)⟩

end

theorem runAll_alike (ops : List (Op N)) (s : State W C) :
    let a : Outcome (State W C) T C (Answer C N) _ := router.runAll parties ops s
    let b : Outcome (State W C) T C (Answer C N) _ :=
      router.serveAll parties (Op.allRequests ops) s
    a.state = b.state ∧ a.trace.Alike b.trace := by
  induction ops generalizing s with
  | nil => exact ⟨rfl, .refl _⟩
  | cons op ops ih =>
    obtain ⟨hstate, htrace⟩ := router.run_alike parties op s
    simp only [runAll, Op.allRequests, serveAll_append, Act.bind_apply, Act.pure_apply,
      Trace.append_empty]
    rw [← hstate]
    obtain ⟨hlast, hrest⟩ := ih (router.run parties op s).state
    exact ⟨hlast, htrace.append hrest⟩

end Router

/-- Every program of operations is one thread that nobody comes in between: it leaves the same state
and tells the same. -/
theorem Crowd.one_thread_runs_all (router : Router) (parties : Collaborators W T C)
    (ops : List (Op N)) (s : State W C) :
    ∃ n,
      let a : Outcome (State W C) T C (Answer C N) _ := router.runAll parties ops s
      let b : Outcome (Crowd W C) T C (Answer C N) Unit :=
        run router parties (List.replicate n (.tick 0)) (start s [Op.allRequests ops])
      b.state.finished = true ∧ b.state.state = a.state ∧ a.trace.Alike b.trace := by
  obtain ⟨hstate, htrace⟩ := router.runAll_alike parties ops s
  have halone := router.alone_serves (A := Answer C N) parties (Op.allRequests ops) s
  have hzero : 0 < [(⟨[], []⟩ : Thread C)].length := Nat.zero_lt_one
  obtain ⟨n, hn⟩ := run_alone router parties halone [] hzero
  refine ⟨n, ?_⟩
  have hstart : start s [Op.allRequests ops] =
      (⟨s, [(⟨[], []⟩ : Thread C)].set 0 ⟨(Op.allRequests ops).map Request.job, []⟩⟩ :
        Crowd W C) := rfl
  simp only [hstart, hn]
  exact ⟨rfl, hstate.symm, htrace⟩

end KeyRoute
