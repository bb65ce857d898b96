-- How a handle is made, call by call. The node's own address is asked for first; what it is decides
-- whether the handle is the node's own or one around a new transport client. The first call that
-- fails is the last one made, and its error is what the caller gets.
import KeyRoute.Proofs.Steps

namespace KeyRoute

variable {W T C A : Type}

/-! ## The answers of the collaborators -/

/-- What a routing call is counted under if this call fails it. -/
def Call.stage : Call T A → Stage
  | .lookup _ => .lookup
  | .whoAmI => .whoAmI
  | _ => .construct

/-- The error of a call that failed. -/
def errorOf {α : Type} : Except RouteError α → Option RouteError
  | .error e => some e
  | .ok _ => none

namespace Collaborators

variable (parties : Collaborators W T C)

/-- The error that a call gives back, if it fails, and what becomes of the collaborators. -/
def fault? : Call T A → W → Option RouteError × W
  | .lookup key, w => (errorOf (parties.lookup key w).1, (parties.lookup key w).2)
  | .whoAmI, w => (errorOf (parties.whoAmI w).1, (parties.whoAmI w).2)
  | .newClient service address, w =>
    (errorOf (parties.newClient service address w).1, (parties.newClient service address w).2)
  | .localClient, w => (errorOf (parties.localClient w).1, (parties.localClient w).2)
  | .remoteClient transport, w =>
    (errorOf (parties.remoteClient transport w).1, (parties.remoteClient transport w).2)
  | .subscribe, w | .serviceName, w | .inner _, w => (none, w)

/-- Makes calls one after the other, whether they fail or not. -/
def faults : List (Call T A) → W → List (Option RouteError) × W
  | [], w => ([], w)
  | call :: calls, w =>
    let (fault, w) := parties.fault? call w
    let (faults, w) := faults calls w
    (fault :: faults, w)

end Collaborators

/-- What some calls gave back if none failed but the last, and that one decided the result. -/
def faultAtEnd {α : Type} (calls : List (Call T A)) :
    Except RouteError α → List (Option RouteError)
  | .ok _ => calls.map fun _ => none
  | .error e => (calls.dropLast.map fun _ => none) ++ [some e]

namespace Router

variable (router : Router) (parties : Collaborators W T C)

/-! ## Making a handle -/

/-- What is asked of the collaborators to make a handle for an address, and what comes of it. -/
inductive Making (owner : Address) :
    W → List (Call T A) → Except RouteError C → W → Prop
  /-- The node does not know its own address. -/
  | unknown {w w' : W} {e : RouteError} (hme : parties.whoAmI w = (.error e, w')) :
      Making owner w [.whoAmI] (.error e) w'
  /-- The address is the node's own, so no transport client is needed. -/
  | own {w w₁ w' : W} {result : Except RouteError C} (hme : parties.whoAmI w = (.ok owner, w₁))
      (hmade : parties.localClient w₁ = (result, w')) :
      Making owner w [.whoAmI, .localClient] result w'
  | unreached {w w₁ w' : W} {me : Address} {e : RouteError}
      (hme : parties.whoAmI w = (.ok me, w₁)) (hother : me ≠ owner)
      (hnew : parties.newClient router.serviceName owner w₁ = (.error e, w')) :
      Making owner w [.whoAmI, .newClient router.serviceName owner] (.error e) w'
  | remote {w w₁ w₂ w' : W} {me : Address} {transport : T} {result : Except RouteError C}
      (hme : parties.whoAmI w = (.ok me, w₁)) (hother : me ≠ owner)
      (hnew : parties.newClient router.serviceName owner w₁ = (.ok transport, w₂))
      (hmade : parties.remoteClient transport w₂ = (result, w')) :
      Making owner w [.whoAmI, .newClient router.serviceName owner, .remoteClient transport]
        result w'

/-- Only the last call can have failed, and the collaborators were asked for nothing else. -/
theorem Making.faults {router : Router} {parties : Collaborators W T C} {owner : Address}
    {w w' : W} {calls : List (Call T A)} {result : Except RouteError C}
    (h : router.Making parties owner w calls result w') :
    parties.faults calls w = (faultAtEnd calls result, w') := by
  cases h with
  | unknown hme => simp [Collaborators.faults, Collaborators.fault?, hme, faultAtEnd, errorOf]
  | own hme hmade =>
    cases result <;>
      simp [Collaborators.faults, Collaborators.fault?, hme, hmade, faultAtEnd, errorOf]
  | unreached hme _ hnew =>
    simp [Collaborators.faults, Collaborators.fault?, hme, hnew, faultAtEnd, errorOf]
  | remote hme _ hnew hmade =>
    cases result <;>
      simp [Collaborators.faults, Collaborators.fault?, hme, hnew, hmade, faultAtEnd, errorOf]

theorem make_own (owner : Address) (s : State W C) :
    (router.make parties owner owner : Act (State W C) T C A _) s =
      ⟨(parties.localClient s.world).1, { s with world := (parties.localClient s.world).2 },
        ⟨[.localClient], [], [], []⟩⟩ := by
  unfold make kindFor
  rw [if_pos rfl]
  rfl

theorem make_unreached {owner me : Address} {s : State W C} {e : RouteError} (h : me ≠ owner)
    (hnew : (parties.newClient router.serviceName owner s.world).1 = .error e) :
    (router.make parties owner me : Act (State W C) T C A _) s =
      ⟨.error e,
        { s with world := (parties.newClient router.serviceName owner s.world).2 },
        ⟨[.newClient router.serviceName owner], [], [], []⟩⟩ := by
  unfold make kindFor
  rw [if_neg (Ne.symm h)]
  simp only [Act.call, Act.bind_apply, Act.record_apply, Act.ask, hnew, Act.pure_apply]
  rfl

theorem make_remote {owner me : Address} {s : State W C} {transport : T} (h : me ≠ owner)
    (hnew : (parties.newClient router.serviceName owner s.world).1 = .ok transport) :
    (router.make parties owner me : Act (State W C) T C A _) s =
      let w := (parties.newClient router.serviceName owner s.world).2
      ⟨(parties.remoteClient transport w).1,
        { s with world := (parties.remoteClient transport w).2 },
        ⟨[.newClient router.serviceName owner, .remoteClient transport], [], [], []⟩⟩ := by
  unfold make kindFor
  rw [if_neg (Ne.symm h)]
  simp only [Act.call, Act.bind_apply, Act.record_apply, Act.ask, hnew]
  rfl

/-- To make a handle for an address, once the node's own address is known. -/
theorem make_asks (owner : Address) {me : Address} {before : W} {s : State W C}
    (hme : parties.whoAmI before = (.ok me, s.world)) :
    let m : Outcome (State W C) T C A (Except RouteError C) := router.make parties owner me s
    router.Making parties owner before (.whoAmI :: m.trace.calls) m.answer m.state.world ∧
      ∃ last, (Call.whoAmI :: m.trace.calls).getLast? = some last ∧ last.stage = .construct := by
  by_cases hother : me = owner
  · subst hother
    rw [make_own]
    exact ⟨.own hme rfl, .localClient, rfl, rfl⟩
  · cases hnew : (parties.newClient router.serviceName owner s.world).1 with
    | error e =>
      rw [router.make_unreached parties hother hnew]
      exact ⟨.unreached hme hother (Prod.ext hnew rfl), _, rfl, rfl⟩
    | ok transport =>
      rw [router.make_remote parties hother hnew]
      exact ⟨.remote hme hother (Prod.ext hnew rfl) rfl, .remoteClient transport, rfl, rfl⟩

theorem build_unknown {owner : Address} {s : State W C} {e : RouteError}
    (h : (parties.whoAmI s.world).1 = .error e) :
    (router.build parties owner : Act (State W C) T C A _) s =
      ⟨.error e, { s with world := (parties.whoAmI s.world).2 },
        ⟨[.whoAmI], [.identityUnknown e], router.made [Sample.up (.routeErrors .whoAmI)], []⟩⟩ := by
  unfold build
  simp only [Act.call, Act.bind_apply, Act.record_apply, Act.ask, h, failed_apply]
  rfl

/-- Once the node's address is known, what comes of a build is what comes of making the handle. -/
theorem build_known {owner me : Address} {s : State W C}
    (h : (parties.whoAmI s.world).1 = .ok me) :
    let o : Outcome (State W C) T C A (Except RouteError C) := router.build parties owner s
    let m : Outcome (State W C) T C A (Except RouteError C) :=
      router.make parties owner me { s with world := (parties.whoAmI s.world).2 }
    o.answer = m.answer ∧ o.state = m.state ∧ o.trace.calls = .whoAmI :: m.trace.calls ∧
      ∀ e, m.answer = .error e →
        o.trace.moves = router.made [Sample.up (.routeErrors .construct)] := by
  have hquiet := router.make_quiet (A := A) parties owner me
    { s with world := (parties.whoAmI s.world).2 }
  unfold build
  simp only [Act.call, Act.bind_apply, Act.record_apply, Act.ask, h] at hquiet ⊢
  revert hquiet
  generalize (router.make parties owner me { s with world := (parties.whoAmI s.world).2 } :
    Outcome (State W C) T C A _) = m
  rintro ⟨-, -, hmoves, -⟩
  cases hm : m.answer with
  | error e =>
    simp only [failed_apply, Trace.calls_append, Trace.moves_append, hmoves]
    exact ⟨trivial, trivial, by simp, fun _ _ => rfl⟩
  | ok client =>
    simp only [Act.bind_apply, Act.note_apply, count_apply, Act.pure_apply, Trace.calls_append]
    exact ⟨trivial, trivial, by simp, fun _ he => by cases he⟩

/-- A build asks for the node's address and then makes the handle, and asks for nothing else. If it
fails, it is counted under its last call. -/
theorem build_asks (owner : Address) (s : State W C) :
    let o : Outcome (State W C) T C A (Except RouteError C) := router.build parties owner s
    router.Making parties owner s.world o.trace.calls o.answer o.state.world ∧
      ∀ e, o.answer = .error e → ∃ last, o.trace.calls.getLast? = some last ∧
        o.trace.moves = router.made [Sample.up (.routeErrors last.stage)] := by
  intro o
  cases hme : (parties.whoAmI s.world).1 with
  | error e =>
    have ho : o = _ := router.build_unknown parties hme
    rw [ho]
    exact ⟨.unknown (Prod.ext hme rfl), fun _ _ => ⟨.whoAmI, rfl, rfl⟩⟩
  | ok me =>
    obtain ⟨hanswer, hstate, hcalls, hmoves⟩ : o.answer = _ ∧ o.state = _ ∧ o.trace.calls = _ ∧ _ :=
      router.build_known parties hme
    obtain ⟨hmaking, last, hlast, hstage⟩ := router.make_asks (A := A) parties owner
      (s := { s with world := (parties.whoAmI s.world).2 }) (Prod.ext hme rfl)
    rw [hanswer, hstate, hcalls]
    exact ⟨hmaking, fun e he => ⟨last, hlast, by rw [hstage]; exact hmoves e he⟩⟩

end Router

end KeyRoute
