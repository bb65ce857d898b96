-- A routing call that fails. It fails in the last call that it makes to a collaborator, hands that
-- error on, and leaves nothing behind but what the collaborators made of being asked and one error
-- that is counted; the next call finds the cache that this one found.
import KeyRoute.Proofs.Making
import KeyRoute.Router.Program
import KeyRoute.Simulation.Cluster

namespace KeyRoute.Router

variable {W T C A : Type} (router : Router) (parties : Collaborators W T C)

/-! ## What a routing call asks -/

/-- All that a routing call asks of the collaborators, once what runs inside its look-up is done,
and what comes of it. -/
inductive Asking (key : String) (cache : Cache C) :
    W → List (Call T A) → Except RouteError C → W → Prop
  /-- Nobody owns the key. -/
  | lost {w w' : W} {e : RouteError} (howner : parties.lookup key w = (.error e, w')) :
      Asking key cache w [.lookup key] (.error e) w'
  /-- There is a handle for the owner, so nobody else is asked. -/
  | held {w w' : W} {owner : Address} {client : C} (howner : parties.lookup key w = (.ok owner, w'))
      (hheld : cache.find? owner = some client) :
      Asking key cache w [.lookup key] (.ok client) w'
  /-- There is none, so one is made. -/
  | missing {w w₁ w' : W} {owner : Address} {calls : List (Call T A)}
      {result : Except RouteError C} (howner : parties.lookup key w = (.ok owner, w₁))
      (hmissing : cache.find? owner = none)
      (hmaking : router.Making parties owner w₁ calls result w') :
      Asking key cache w (.lookup key :: calls) result w'

section

variable {router parties} {key : String} {cache : Cache C} {w w' : W} {calls : List (Call T A)}
  {result : Except RouteError C}

theorem Making.ne_nil {owner : Address} (h : router.Making parties owner w calls result w') :
    calls ≠ [] := by
  cases h <;> exact List.cons_ne_nil _ _

/-- Nobody is asked for the owner of a key while a handle is made. -/
theorem Making.not_lookup {owner : Address} (h : router.Making parties owner w calls result w')
    (other : String) : Call.lookup other ∉ calls := by
  cases h <;> simp

theorem faultAtEnd_cons (call : Call T A) (h : calls ≠ []) :
    faultAtEnd (call :: calls) result = none :: faultAtEnd calls result := by
  cases result with
  | ok client => rfl
  | error e => simp [faultAtEnd, List.dropLast_cons_of_ne_nil h]

/-- A routing call fails in its last call to a collaborator or not at all. -/
theorem Asking.faults (h : router.Asking parties key cache w calls result w') :
    parties.faults calls w = (faultAtEnd calls result, w') := by
  cases h with
  | lost howner =>
    simp [Collaborators.faults, Collaborators.fault?, howner, errorOf, faultAtEnd]
  | held howner =>
    simp [Collaborators.faults, Collaborators.fault?, howner, errorOf, faultAtEnd]
  | missing howner _ hmaking =>
    rw [faultAtEnd_cons _ hmaking.ne_nil]
    simp [Collaborators.faults, Collaborators.fault?, howner, errorOf, hmaking.faults]

/-- Only one call asks for the owner of a key, and that is the first one. -/
theorem Asking.not_lookup {first : Call T A}
    (h : router.Asking parties key cache w (first :: calls) result w') (other : String) :
    Call.lookup other ∉ calls := by
  cases h with
  | lost | held => simp
  | missing _ _ hmaking => exact hmaking.not_lookup other

/-- If a handle is held for the owner, nobody else is asked, so nobody else can fail. -/
theorem Asking.of_held {first : Call T A}
    (h : router.Asking parties key cache w (first :: calls) result w') {owner : Address}
    {client : C} (howner : (parties.lookup key w).1 = .ok owner)
    (hheld : cache.find? owner = some client) : calls = [] ∧ result = .ok client := by
  cases h with
  | lost hlost => simp [hlost] at howner
  | held hfound hother =>
    rw [hfound] at howner
    cases howner
    rw [hheld] at hother
    cases hother
    exact ⟨rfl, rfl⟩
  | missing hfound hmissing =>
    rw [hfound] at howner
    cases howner
    rw [hheld] at hmissing
    cases hmissing

end

/-- Where no handle is held, a call fails as a build fails, and leaves what the build leaves. -/
theorem get_of_build {key : String} {during : Act (State W C) T C A Unit} {s : State W C}
    {owner : Address} (h : (parties.lookup key (during s).state.world).1 = .ok owner)
    (hmissing : (during s).state.cache.find? owner = none) :
    let o := router.get parties key during s
    let b := router.build parties owner (asked parties key (during s).state)
    o.answer = b.answer ∧ o.state.world = b.state.world ∧
      o.trace.calls = .lookup key :: ((during s).trace.calls ++ b.trace.calls) ∧
      ∀ e, b.answer = .error e → o.state.cache = (during s).state.cache ∧
        o.trace.moves = (during s).trace.moves ++ b.trace.moves := by
  simp only [get_missing router parties h hmissing]
  have hmissing : (asked parties key (during s).state).cache.find? owner = none := hmissing
  have hcache := (router.building (A := A) parties owner (asked parties key (during s).state)).cache
  cases hb : (router.build parties owner (asked parties key (during s).state) :
      Outcome (State W C) T C A _).answer with
  | error e =>
    simp only [ensure_error router parties hmissing hb]
    refine ⟨trivial, trivial, ?_, fun _ _ => ⟨hcache, ?_⟩⟩ <;> simp
  | ok client =>
    simp only [ensure_ok router parties hmissing hb]
    refine ⟨trivial, trivial, ?_, fun _ he => by cases he⟩
    simp

/-- What a routing call asks after its look-up, and what it leaves if it fails: the cache as it was,
and one error that is counted under its last call. -/
theorem get_asks (key : String) (during : Act (State W C) T C A Unit) (s : State W C) :
    let d := during s
    let o := router.get parties key during s
    ∃ asked, o.trace.calls = .lookup key :: (d.trace.calls ++ asked) ∧
      router.Asking parties key d.state.cache d.state.world (.lookup key :: asked) o.answer
        o.state.world ∧
      ∀ e, o.answer = .error e → o.state.cache = d.state.cache ∧
        ∃ last, (.lookup key :: asked).getLast? = some last ∧
          o.trace.moves = d.trace.moves ++ router.made [Sample.up (.routeErrors last.stage)] := by
  intro d o
  cases howner : (parties.lookup key d.state.world).1 with
  | error e =>
    have ho : o = _ := router.get_lost parties howner
    rw [ho]
    refine ⟨[], by simp [d], .lost (Prod.ext howner rfl), fun _ _ => ⟨rfl, .lookup key, rfl, ?_⟩⟩
    simp [d, Call.stage]
  | ok owner =>
    have hlookup : parties.lookup key d.state.world = (.ok owner, _) := Prod.ext howner rfl
    cases hheld : d.state.cache.find? owner with
    | some client =>
      have ho : o = _ := router.get_held parties howner hheld
      rw [ho]
      exact ⟨[], by simp [d], .held hlookup hheld, fun _ he => by cases he⟩
    | none =>
      obtain ⟨hanswer, hworld, hcalls, hkept⟩ := router.get_of_build parties howner hheld
      obtain ⟨hmaking, hcounted⟩ := router.build_asks (A := A) parties owner
        (asked parties key d.state)
      refine ⟨_, hcalls, ?_, ?_⟩
      · rw [hanswer, hworld]
        exact .missing hlookup hheld hmaking
      · intro e he
        rw [hanswer] at he
        obtain ⟨last, hlast, hmoves⟩ := hcounted e he
        obtain ⟨hcache, hmoved⟩ := hkept e he
        refine ⟨hcache, last, ?_, by rw [hmoved, hmoves]⟩
        rw [List.getLast?_cons, hlast]
        rfl

/-- A routing call asks for the owner of its key once, before all else, and only if nothing is held
for the owner it asks on: for the node's own address, and then for a handle of its own or for a
transport client and, with that, for a handle around it. If it fails, its error is that of the last
call it made, and no other call failed. Then the cache is as it was when the owner was known, one
error is counted under that last call if metrics are enabled, and nothing else is; and a later call
comes to what it would come to without the failed one, but for what the collaborators are at. -/
theorem a_failed_call_is_as_if_never_made (key : String) (during : Act (State W C) T C A Unit)
    (s : State W C) :
    let d := during s
    let o := router.get parties key during s
    ∃ asked, o.trace.calls = .lookup key :: (d.trace.calls ++ asked) ∧
      (∀ other, Call.lookup other ∉ asked) ∧
      router.Asking parties key d.state.cache d.state.world (.lookup key :: asked) o.answer
        o.state.world ∧
      parties.faults (.lookup key :: asked) d.state.world =
        (faultAtEnd (.lookup key :: asked) o.answer, o.state.world) ∧
      (∀ owner client, (parties.lookup key d.state.world).1 = .ok owner →
        d.state.cache.find? owner = some client → asked = [] ∧ o.answer = .ok client) ∧
      ∀ e, o.answer = .error e → o.state.cache = d.state.cache ∧
        (∃ last, (.lookup key :: asked).getLast? = some last ∧
          o.trace.moves = d.trace.moves ++ router.made [Sample.up (.routeErrors last.stage)]) ∧
        ∀ (world : W) (later : String) (during' : Act (State W C) T C A Unit),
          router.get parties later during' { o.state with world := world } =
            router.get parties later during' { d.state with world := world } := by
  intro d o
  obtain ⟨asked, hcalls, hasking, hfailed⟩ := router.get_asks parties key during s
  refine ⟨asked, hcalls, hasking.not_lookup, hasking, hasking.faults, ?_, ?_⟩
  · intro owner client howner hheld
    exact hasking.of_held howner hheld
  · intro e he
    obtain ⟨hcache, hcounted⟩ := hfailed e he
    refine ⟨hcache, hcounted, fun world later during' => ?_⟩
    change router.get parties later during' ⟨world, o.state.cache⟩ = _
    rw [hcache]

/-- A handle cannot be built once, and then it can; and one that is held is got even from a node
that does not know its own address. -/
theorem a_handle_is_built_at_the_second_try :
    let router : Router := ⟨"svc", true⟩
    let down : RouteError := .construction "b" "no route"
    let cluster := Cluster.start "a" "svc" [("k", "b"), ("l", "c")]
    let broken := cluster.setFailure (.remote none) (some down)
    let mute := broken.setFailure .whoAmI (some (.selfIdentity "not bootstrapped"))
    let cache : Cache Handle := ⟨[("c", .remote "svc" "c" 1)]⟩
    let get (key : String) (state : State Cluster Handle) :
        Outcome (State Cluster Handle) Wire Handle Empty (Except RouteError Handle) :=
      router.get Cluster.parties key (pure ()) state
    let o := get "k" ⟨broken, cache⟩
    o.answer = .error down ∧
    o.trace.calls = [.lookup "k", .whoAmI, .newClient "svc" "b", .remoteClient ⟨"svc", "b"⟩] ∧
    o.state.cache = cache ∧ o.trace.moves = [Sample.up (.routeErrors .construct)] ∧
    (get "k" { o.state with world := cluster }).answer = .ok (.remote "svc" "b" 1) ∧
    (get "l" ⟨mute, cache⟩).answer = .ok (.remote "svc" "c" 1) := by
  intro router down cluster broken mute cache get o
  have h := a_failed_call_is_as_if_never_made (A := Empty) router Cluster.parties
  have hfails : o.answer = .error down := rfl
  obtain ⟨_, -, -, -, -, -, hfailed⟩ := h "k" (pure ()) ⟨broken, cache⟩
  obtain ⟨hcache, -, hlater⟩ := hfailed down hfails
  obtain ⟨_, -, -, -, -, hheld, -⟩ := h "l" (pure ()) ⟨mute, cache⟩
  refine ⟨hfails, rfl, hcache, rfl, ?_, (hheld "c" (.remote "svc" "c" 1) rfl rfl).2⟩
  exact (congrArg Outcome.answer (hlater cluster "k" (pure ()))).trans rfl

end KeyRoute.Router
