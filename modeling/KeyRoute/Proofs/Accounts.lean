-- Accounts of a run. What a trace brings in, less what it takes out, is what the threads owed
-- before and do not owe any more. Whether a step keeps such a balance is seen from its job alone;
-- the other threads do not matter, so the balance of a run follows.
import Mathlib.Algebra.BigOperators.Group.List.Basic
import Mathlib.Tactic.Ring
import KeyRoute.Proofs.Crowds
import KeyRoute.Proofs.History

namespace KeyRoute

variable {W T C A : Type}

/-- What each thing in a trace brings in, what a visit takes out, what a job owes, and what is kept
for a call that came back. -/
structure Account (T C A : Type) where
  call : Call T A → Int
  notice : Notice → Int
  move : Move → Int
  visit : Visit C → Int
  owed : Job C → Int
  kept : Return C → Int

namespace Account

variable (account : Account T C A)

def gain (trace : Trace T C A) : Int :=
  (trace.calls.map account.call).sum + (trace.log.map account.notice).sum +
    (trace.moves.map account.move).sum

def loss (trace : Trace T C A) : Int := (trace.visits.map account.visit).sum

def ofThread (thread : Thread C) : Int :=
  (thread.jobs.map account.owed).sum + (thread.returned.map account.kept).sum

def ofCrowd (crowd : Crowd W C) : Int := (crowd.threads.map account.ofThread).sum

@[simp] theorem gain_empty : account.gain .empty = 0 := rfl

@[simp] theorem loss_empty : account.loss .empty = 0 := rfl

@[simp] theorem gain_append (a b : Trace T C A) :
    account.gain (a ++ b) = account.gain a + account.gain b := by
  simp only [gain, Trace.calls_append, Trace.log_append, Trace.moves_append, List.map_append,
    List.sum_append]
  omega

@[simp] theorem loss_append (a b : Trace T C A) :
    account.loss (a ++ b) = account.loss a + account.loss b := by
  simp only [loss, Trace.visits_append, List.map_append, List.sum_append]

/-- One step of a job balances. -/
def Balances (job : Job C) (o : Outcome (State W C) T C A (Thread C)) : Prop :=
  account.gain o.trace + account.ofThread o.answer = account.owed job + account.loss o.trace

theorem ofThread_step (job : Job C) (jobs : List (Job C)) (returned : List (Return C))
    (rest : Thread C) :
    account.ofThread ⟨rest.jobs ++ jobs, returned ++ rest.returned⟩ + account.owed job =
      account.ofThread rest + account.ofThread ⟨job :: jobs, returned⟩ := by
  simp only [ofThread, List.map_append, List.sum_append, List.map_cons, List.sum_cons]
  omega

/-- All steps balance, and nothing is owed for what was not begun. -/
structure Sound (router : Router) (parties : Collaborators W T C) : Prop where
  step : ∀ job (s : State W C) o, router.Worked parties s job o → account.Balances job o
  fresh : ∀ job, job.fresh = true → account.owed job = 0

variable {account}

theorem owed_fresh (h : ∀ job, job.fresh = true → account.owed job = 0) {jobs : List (Job C)}
    (hjobs : ∀ job ∈ jobs, job.fresh = true) : (jobs.map account.owed).sum = 0 := by
  apply List.sum_eq_zero
  intro amount hmem
  obtain ⟨job, hjob, rfl⟩ := List.mem_map.mp hmem
  exact h job (hjobs job hjob)

theorem ofThread_start (h : ∀ job, job.fresh = true → account.owed job = 0)
    (requests : List Request) : account.ofThread (.start requests) = 0 := by
  unfold ofThread Thread.start
  rw [owed_fresh h, List.map_nil, List.sum_nil, Int.add_zero]
  intro job hjob
  obtain ⟨request, -, rfl⟩ := List.mem_map.mp hjob
  exact request.fresh_job

theorem ofCrowd_start (h : ∀ job, job.fresh = true → account.owed job = 0) (state : State W C)
    (requests : List (List Request)) : account.ofCrowd (Crowd.start state requests) = 0 := by
  apply List.sum_eq_zero
  intro amount hmem
  obtain ⟨thread, hthread, rfl⟩ := List.mem_map.mp hmem
  obtain ⟨rs, -, rfl⟩ := List.mem_map.mp hthread
  exact ofThread_start h rs

end Account

/-- A sum after one of its parts was exchanged. -/
theorem sum_set {amounts : List Int} {i : Nat} {a b : Int} (h : amounts[i]? = some a) :
    (amounts.set i b).sum + a = amounts.sum + b := by
  induction amounts generalizing i with
  | nil => simp at h
  | cons c amounts ih =>
    cases i with
    | zero =>
      simp only [List.getElem?_cons_zero, Option.some.injEq] at h
      subst h
      simp only [List.set_cons_zero, List.sum_cons]
      omega
    | succ i =>
      have := ih (by simpa using h)
      simp only [List.set_cons_succ, List.sum_cons]
      omega

namespace Crowd

variable (router : Router) (parties : Collaborators W T C) {account : Account T C A}

/-- If the step of its first job balances, a tick of a thread does. -/
theorem balance_tick {i : Nat} {crowd : Crowd W C}
    (h : ∀ job, crowd.job? i = some job →
      account.Balances job (router.work parties job crowd.state)) :
    let o : Outcome (Crowd W C) T C A Unit := tick router parties i crowd
    account.gain o.trace + account.ofCrowd o.state =
      account.ofCrowd crowd + account.loss o.trace := by
  rcases tick_cases (A := A) router parties i crowd with
    ⟨-, hs⟩ | ⟨⟨old, returned⟩, job, jobs, ht, rfl, hs⟩
  · simp [hs]
  · have hjob := h job (by simp [job?, ht])
    have hthread := account.ofThread_step job jobs returned
      (router.work parties job crowd.state : Outcome (State W C) T C A _).answer
    unfold Account.Balances at hjob
    simp only [hs, Account.ofCrowd, List.map_set]
    generalize (router.work parties job crowd.state : Outcome (State W C) T C A _) = o at *
    have hsum := sum_set
      (b := account.ofThread ⟨o.answer.jobs ++ jobs, returned ++ o.answer.returned⟩)
      (show (crowd.threads.map account.ofThread)[i]? =
        some (account.ofThread ⟨job :: jobs, returned⟩) by simp [ht])
    omega

/-- In a sound account what a run brings in and what is owed after it make up for what was owed
before and what the run takes out. -/
theorem balance_run (hsound : account.Sound router parties) (stirs : List (Stir W))
    (crowd : Crowd W C) :
    let o : Outcome (Crowd W C) T C A Unit := run router parties stirs crowd
    account.gain o.trace + account.ofCrowd o.state =
      account.ofCrowd crowd + account.loss o.trace := by
  induction stirs generalizing crowd with
  | nil => simp [run, Act.pure_apply]
  | cons s stirs ih =>
    have hstir : let o : Outcome (Crowd W C) T C A Unit := stir router parties s crowd
        account.gain o.trace + account.ofCrowd o.state =
          account.ofCrowd crowd + account.loss o.trace := by
      cases s with
      | tick i =>
        exact balance_tick router parties fun job _ =>
          hsound.step job crowd.state _ (router.worked parties job crowd.state)
      | join requests =>
        simp only [stir, Act.change_apply, Account.gain_empty, Account.loss_empty, Account.ofCrowd,
          List.map_append, List.sum_append, List.map_singleton, List.sum_singleton]
        rw [Account.ofThread_start hsound.fresh]
        omega
      | drift world =>
        simp [stir, onState, Act.change_apply, Account.ofCrowd]
    have hrest := ih (stir router parties s crowd : Outcome (Crowd W C) T C A Unit).state
    simp only [run, Act.bind_apply, Account.gain_append, Account.loss_append] at hstir hrest ⊢
    omega

end Crowd

/-! ## What the log tells -/

/-- The line tells of a handle that was built for the address. -/
def Notice.creates (address : Address) : Notice → Bool
  | .created _ a => a == address
  | _ => false

theorem Router.creates_failureNotice (address owner : Address) (stage : Stage) (e : RouteError) :
    (failureNotice owner stage e).creates address = false := by
  cases stage <;> rfl

theorem Router.creates_notices (address : Address) (change : Change) :
    ∀ n ∈ notices change, n.creates address = false := by
  unfold notices
  split
  · simp [Notice.creates]
  · split <;> simp [Notice.creates]

theorem sum_indicator {α : Type} (p : α → Bool) (l : List α) :
    (l.map fun a => if p a then (1 : Int) else 0).sum = l.countP p := by
  induction l with
  | nil => rfl
  | cons a l ih =>
    rw [List.map_cons, List.sum_cons, ih, List.countP_cons]
    cases p a <;> simp [Int.add_comm]

/-- The log tells of each build. -/
theorem Crowd.log_tells_builds (router : Router) (parties : Collaborators W T C)
    (stirs : List (Stir W)) (crowd : Crowd W C) (address : Address) :
    let o : Outcome (Crowd W C) T C A Unit := run router parties stirs crowd
    o.trace.log.countP (·.creates address) = Leads.builds address o.trace.visits := by
  refine trace_run router parties
    (fun trace => trace.log.countP (·.creates address) = Leads.builds address trace.visits)
    rfl ?_ ?_ stirs crowd
  · intro a b ha hb
    unfold Leads.builds at *
    rw [Trace.log_append, Trace.visits_append, List.countP_append, List.countP_append, ha, hb]
  · intro job s o h
    unfold Leads.builds
    cases h with
    | failed => simp [Visit.isBuild, Router.creates_failureNotice]
    | @applied change =>
      rw [List.countP_eq_zero.mpr fun n hn => by simp [Router.creates_notices address change n hn]]
      rfl
    | _ => simp [Visit.isBuild, Notice.creates]

/-- A router that has metrics disabled moves none. -/
theorem Crowd.moves_disabled {router : Router} (h : router.metricsEnabled = false)
    (parties : Collaborators W T C) (stirs : List (Stir W)) (crowd : Crowd W C) :
    (run router parties stirs crowd : Outcome (Crowd W C) T C A Unit).trace.moves = [] := by
  refine trace_run router parties (fun trace => trace.moves = []) rfl ?_ ?_ stirs crowd
  · intro a b ha hb
    rw [Trace.moves_append, ha, hb, List.append_nil]
  · intro job s o hw
    cases hw <;> simp [Router.made, h]

/-! ## What the metrics tell -/

/-- What one of each metric is worth, as far as they are told apart here. -/
structure Prices where
  /-- A hit or an error. -/
  answer : Int
  miss : Int
  created : Int
  eviction : Int
  cached : Int

namespace Prices

variable (prices : Prices)

def of : Sample → Int
  | .hits _ | .routeErrors _ => prices.answer
  | .misses => prices.miss
  | .created _ => prices.created
  | .evictions => prices.eviction
  | .cachedClients => prices.cached

/-- The metrics at their prices, against the visits that they count. A call that is leaving has been
counted if it has an error, and is still to be counted if it built its handle. -/
def account : Account T C A where
  call _ := 0
  notice _ := 0
  move m := prices.of m.sample * m.amount
  visit v :=
    (if v.fills then prices.created + prices.cached + prices.miss - prices.answer else 0) +
      if v.empties then prices.eviction - prices.cached else 0
  owed
    | .get (.leaving _ _ (.error _)) => -prices.answer
    | .get (.leaving _ _ (.ok (.inserted _))) => prices.miss - prices.answer
    | .report _ => prices.eviction
    | _ => 0
  kept _ := -prices.answer

theorem owed_fresh (job : Job C) (h : job.fresh = true) :
    (prices.account : Account T C A).owed job = 0 := by
  cases job with
  | get flight =>
    cases flight with
    | called key => rfl
    | _ => cases h
  | report address => cases h
  | _ => rfl

theorem sound {router : Router} (h : router.metricsEnabled = true)
    (parties : Collaborators W T C) : (prices.account : Account T C A).Sound router parties where
  step job s o hw := by
    unfold Account.Balances
    cases hw with
    | @cameBack key owner entry =>
      cases entry with
      | existing path client =>
        simp [account, of, Account.gain, Account.loss, Account.ofThread, Router.made, h, Sample.up,
          Entry.sample]
      | inserted client =>
        simp [account, of, Account.gain, Account.loss, Account.ofThread, Router.made, h, Sample.up,
          Entry.sample]
        omega
    | built | removed =>
      simp [account, of, Account.gain, Account.loss, Account.ofThread, Router.made, h, Sample.up,
        Sample.down, Visit.fills, Visit.empties]
      omega
    | @applied change =>
      cases change.evicts <;>
        simp [account, of, Account.gain, Account.loss, Account.ofThread]
    | _ =>
      simp [account, of, Account.gain, Account.loss, Account.ofThread, Router.made, h, Sample.up,
        Visit.fills, Visit.empties, Function.comp_def]
  fresh := prices.owed_fresh

/-- All metrics after some moves, at their prices. -/
def total (moves : List Move) : Int :=
  prices.answer * (Metrics.value moves (.hits .fast) + Metrics.value moves (.hits .recheck) +
      Metrics.value moves (.routeErrors .lookup) + Metrics.value moves (.routeErrors .whoAmI) +
      Metrics.value moves (.routeErrors .construct)) +
    prices.miss * Metrics.value moves .misses +
    prices.created *
      (Metrics.value moves (.created .inProcess) + Metrics.value moves (.created .remote)) +
    prices.eviction * Metrics.value moves .evictions +
    prices.cached * Metrics.value moves .cachedClients

theorem gain_account (trace : Trace T C A) :
    (prices.account : Account T C A).gain trace = prices.total trace.moves := by
  obtain ⟨calls, log, moves, visits⟩ := trace
  have hmoves : (moves.map fun m => prices.of m.sample * m.amount).sum = prices.total moves := by
    induction moves with
    | nil => simp [total, Metrics.value]
    | cons m moves ih =>
      obtain ⟨sample, amount⟩ := m
      rw [List.map_cons, List.sum_cons, ih]
      rcases sample with ⟨⟨⟩⟩ | _ | ⟨⟨⟩⟩ | _ | ⟨⟨⟩⟩ | _ <;>
        simp [total, of, Metrics.value, Metrics.effect] <;> ring
  simp [Account.gain, account, hmoves]

theorem loss_account (trace : Trace T C A) :
    (prices.account : Account T C A).loss trace =
      (prices.created + prices.cached + prices.miss - prices.answer) *
          trace.visits.countP (·.fills) +
        (prices.eviction - prices.cached) * trace.visits.countP (·.empties) := by
  obtain ⟨calls, log, moves, visits⟩ := trace
  simp only [Account.loss, account]
  induction visits with
  | nil => simp
  | cons v visits ih =>
    rw [List.map_cons, List.sum_cons, ih, List.countP_cons, List.countP_cons]
    cases v.fills <;> cases v.empties <;> simp <;> ring

end Prices

end KeyRoute
