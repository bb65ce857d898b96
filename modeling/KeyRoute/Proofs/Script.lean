-- Collaborators that keep to their script. As long as nobody changes it, a look-up answers the
-- same at all times, and so does the build of a handle, until it succeeds: each address has a
-- count of its own.
import KeyRoute.Proofs.Crowds
import KeyRoute.Proofs.History
import KeyRoute.Simulation.Cluster

namespace KeyRoute

variable {A : Type}

namespace Cluster

/-- The same script with other counts. -/
def counting (cluster : Cluster) (here : Nat) (there : Address → Nat) : Cluster :=
  { cluster with localBuilt := here, remoteBuilt := there }

/-- As many handles were counted for an address. -/
def CountsAlike (cluster : Cluster) (here : Nat) (there : Address → Nat) (address : Address) :
    Prop :=
  if address = cluster.me then here = cluster.localBuilt
  else there address = cluster.remoteBuilt address

end Cluster

namespace Router

variable (router : Router) (cluster : Cluster)

/-- A build answers and does the same whenever as many handles were counted for its address. It
counts for no other address, and for its own only if it succeeds. -/
theorem build_counting {here : Nat} {there : Address → Nat} {owner : Address}
    (cache cache' : Cache Handle) (h : cluster.CountsAlike here there owner) :
    let o : Outcome (State Cluster Handle) Wire Handle A _ :=
      router.build Cluster.parties owner ⟨cluster.counting here there, cache⟩
    let first : Outcome (State Cluster Handle) Wire Handle A _ :=
      router.build Cluster.parties owner ⟨cluster, cache'⟩
    o.answer = first.answer ∧ o.trace = first.trace ∧
      ∃ here' there', o.state.world = cluster.counting here' there' ∧
        ∀ address, (∀ client, o.answer = .ok client → address ≠ owner) →
          cluster.CountsAlike here there address → cluster.CountsAlike here' there' address := by
  unfold build
  simp only [Act.call, Act.bind_apply, Act.record_apply, Act.ask, Cluster.parties,
    Cluster.counting, Cluster.failing]
  cases cluster.whoAmIFailure with
  | some e => exact ⟨rfl, rfl, here, there, rfl, fun _ _ h => h⟩
  | none =>
    simp only [make, kindFor]
    by_cases hme : owner = cluster.me
    · have hcount : here = cluster.localBuilt := by
        unfold Cluster.CountsAlike at h
        rwa [if_pos hme] at h
      subst hcount
      simp only [hme, if_true, Act.call, Act.bind_apply, Act.record_apply, Act.ask,
        Cluster.localClient]
      cases cluster.localFailure with
      | some e => exact ⟨rfl, rfl, cluster.localBuilt, there, rfl, fun _ _ h => h⟩
      | none =>
        refine ⟨rfl, rfl, cluster.localBuilt + 1, there, rfl, ?_⟩
        intro address hother halike
        have hne : address ≠ cluster.me := hother _ rfl
        unfold Cluster.CountsAlike at halike ⊢
        rw [if_neg hne] at halike ⊢
        exact halike
    · have hcount : there owner = cluster.remoteBuilt owner := by
        unfold Cluster.CountsAlike at h
        rwa [if_neg hme] at h
      simp only [hme, if_false, Act.call, Act.bind_apply, Act.record_apply, Act.ask]
      cases cluster.channelFailures.at? owner with
      | some e => exact ⟨rfl, rfl, here, there, rfl, fun _ _ h => h⟩
      | none =>
        simp only [Act.bind_apply, Act.record_apply, Act.ask, Cluster.remoteClient]
        cases cluster.remoteFailures.at? owner with
        | some e => exact ⟨rfl, rfl, here, there, rfl, fun _ _ h => h⟩
        | none =>
          simp only [hcount]
          refine ⟨rfl, rfl, here, fun a => if a = owner then cluster.remoteBuilt owner + 1
            else there a, rfl, ?_⟩
          intro address hother halike
          have hne : address ≠ owner := hother _ rfl
          unfold Cluster.CountsAlike at halike ⊢
          simpa only [hne, if_false] using halike

end Router

/-- What was cached stays where a handle is put in an empty place. -/
theorem Cache.grown_insert {C : Type} {cache : Cache C} {owner : Address}
    (h : cache.find? owner = none) (client : C) (address : Address) (other : C)
    (hother : cache.find? address = some other) :
    (cache.insert owner client).find? address = some other := by
  rw [Cache.find?_insert, if_neg, hother]
  rintro rfl
  rw [h] at hother
  cases hother

/-! ## What is settled at the start -/

namespace Router

section

variable (A) (router : Router) (start : State Cluster Handle)

/-- The build of a handle as it would be at the start. -/
def first (owner : Address) :
    Outcome (State Cluster Handle) Wire Handle A (Except RouteError Handle) :=
  router.build Cluster.parties owner start

/-- What calls for an address are to get. -/
def promise (owner : Address) : Except RouteError Handle :=
  match start.cache.find? owner with
  | some client => .ok client
  | none => (first A router start owner).answer

/-- What calls for a key are to get. -/
def fate (key : String) : Except RouteError Handle :=
  match Cluster.lookup key start.world with
  | .error e => .error e
  | .ok owner => promise A router start owner

/-- The handle that a key is to get is there. -/
def Served (key : String) (s : State Cluster Handle) : Prop :=
  ∀ owner client, Cluster.lookup key start.world = .ok owner →
    promise A router start owner = .ok client → s.cache.find? owner = some client

/-- What holds of the router at all times: the script is the one of the start, each handle is the
promised one, and an address without a handle has not been counted for. -/
structure Steady (keys : List String) (s : State Cluster Handle) : Prop where
  script : ∃ here there, s.world = start.world.counting here there ∧
    ∀ address, s.cache.find? address = none → start.world.CountsAlike here there address
  kept : ∀ address client, start.cache.find? address = some client →
    s.cache.find? address = some client
  promised : ∀ address client, s.cache.find? address = some client →
    promise A router start address = .ok client
  asked : ∀ address client, s.cache.find? address = some client →
    (start.cache.find? address).isSome ∨
      ∃ key ∈ keys, Cluster.lookup key start.world = .ok address

/-- What holds of all that a thread has still to do. -/
def Bound (keys : List String) (s : State Cluster Handle) : Job Handle → Prop
  | .get (.called key) => key ∈ keys
  | .get (.resolved key owner) | .get (.missed key owner) =>
    key ∈ keys ∧ Cluster.lookup key start.world = .ok owner
  | .get (.leaving key _ outcome) =>
    outcome.map Entry.client = fate A router start key ∧ Served A router start key s
  | _ => False

/-- What holds of all calls that came back. -/
def Kept (s : State Cluster Handle) (back : Return Handle) : Prop :=
  back.result = fate A router start back.key ∧ Served A router start back.key s

end

variable {router : Router} {start : State Cluster Handle} {keys : List String}
  {s : State Cluster Handle}

theorem steady_start : Steady A router start keys start where
  script := by
    refine ⟨start.world.localBuilt, start.world.remoteBuilt, rfl, fun address _ => ?_⟩
    unfold Cluster.CountsAlike
    split <;> rfl
  kept _ _ h := h
  promised address client h := by
    unfold promise
    rw [h]
  asked address client h := Or.inl (by rw [h]; rfl)

namespace Steady

variable (h : Steady A router start keys s)

include h

theorem lookup (key : String) :
    Cluster.parties.lookup key s.world = (Cluster.lookup key start.world, s.world) := by
  obtain ⟨here, there, hworld, -⟩ := h.script
  rw [hworld]
  rfl

theorem absent_at_start {owner : Address} (hnone : s.cache.find? owner = none) :
    start.cache.find? owner = none := by
  cases hs : start.cache.find? owner with
  | none => rfl
  | some client =>
    rw [h.kept owner client hs] at hnone
    cases hnone

/-- A build at any time is the one that was to be at the start. -/
theorem build {owner : Address} (hnone : s.cache.find? owner = none) :
    let o : Outcome (State Cluster Handle) Wire Handle A _ :=
      router.build Cluster.parties owner s
    o.answer = promise A router start owner ∧ o.trace = (first A router start owner).trace ∧
      ∃ here there, o.state.world = start.world.counting here there ∧
        ∀ address, s.cache.find? address = none →
          (∀ client, o.answer = .ok client → address ≠ owner) →
          start.world.CountsAlike here there address := by
  obtain ⟨here, there, hworld, hcounts⟩ := h.script
  obtain ⟨world, cache⟩ := s
  obtain ⟨world', cache'⟩ := start
  simp only at hworld hnone hcounts
  subst hworld
  have hpromise : promise A router ⟨world', cache'⟩ owner =
      (first A router ⟨world', cache'⟩ owner).answer := by
    unfold promise
    rw [h.absent_at_start hnone]
  obtain ⟨hanswer, htrace, here', there', hworld', hcounts'⟩ :=
    router.build_counting (A := A) world' cache cache' (hcounts owner hnone)
  refine ⟨hanswer.trans hpromise.symm, htrace, here', there', hworld', ?_⟩
  intro address haddress hother
  exact hcounts' address hother (hcounts address haddress)

/-- The promised handle is put where none is. -/
theorem insert {key : String} {owner : Address} {client : Handle} {world : Cluster}
    (hnone : s.cache.find? owner = none) (hkey : key ∈ keys)
    (howner : Cluster.lookup key start.world = .ok owner)
    (hpromise : promise A router start owner = .ok client)
    (hscript : ∃ here there, world = start.world.counting here there ∧
      ∀ address, s.cache.find? address = none → address ≠ owner →
        start.world.CountsAlike here there address) :
    Steady A router start keys ⟨world, s.cache.insert owner client⟩ where
  script := by
    obtain ⟨here, there, hworld, hcounts⟩ := hscript
    refine ⟨here, there, hworld, fun address haddress => ?_⟩
    rw [Cache.find?_insert] at haddress
    split at haddress
    · cases haddress
    · exact hcounts address haddress (by assumption)
  kept address other hother :=
    Cache.grown_insert hnone client address other (h.kept address other hother)
  promised address other hother := by
    rw [Cache.find?_insert] at hother
    split at hother
    · cases hother
      subst owner
      exact hpromise
    · exact h.promised address other hother
  asked address other hother := by
    rw [Cache.find?_insert] at hother
    split at hother
    · subst owner
      exact Or.inr ⟨key, hkey, howner⟩
    · exact h.asked address other hother

end Steady

end Router

/-! ## One step -/

/-- The key that a job asks for, if it is a routing call. -/
def Job.asks {C : Type} : Job C → List String
  | .get (.called key) | .get (.resolved key _) | .get (.missed key _)
  | .get (.leaving key _ _) => [key]
  | _ => []

namespace Router

/-- A step of a thread that only asks keeps to what was settled. -/
structure Settled (A : Type) (router : Router) (start : State Cluster Handle)
    (keys : List String) (s : State Cluster Handle) (job : Job Handle)
    (o : Outcome (State Cluster Handle) Wire Handle A (Thread Handle)) : Prop where
  steady : Steady A router start keys o.state
  grown : ∀ address client, s.cache.find? address = some client →
    o.state.cache.find? address = some client
  jobs : ∀ j ∈ o.answer.jobs, Bound A router start keys o.state j
  returned : ∀ back ∈ o.answer.returned, Kept A router start o.state back
  asks : o.answer.returned.map (·.key) ++ o.answer.jobs.flatMap Job.asks = job.asks
  visits : ∀ v ∈ o.trace.visits, v.empties = false

variable {router : Router} {start : State Cluster Handle} {keys : List String}
  {s : State Cluster Handle}

/-- What a key is to get is there once the handle of its owner is. -/
theorem served_of_cached (h : Steady A router start keys s) {key : String} {owner : Address}
    {client : Handle} (howner : Cluster.lookup key start.world = .ok owner)
    (hcached : s.cache.find? owner = some client) :
    fate A router start key = .ok client ∧ Served A router start key s := by
  have hpromise := h.promised owner client hcached
  constructor
  · unfold fate
    rw [howner]
    exact hpromise
  · intro owner' client' howner' hclient'
    rw [howner] at howner'
    cases howner'
    rw [hpromise] at hclient'
    cases hclient'
    exact hcached

/-- Nothing has to be there for a key that gets an error. -/
theorem served_of_error {key : String} {e : RouteError} (h : fate A router start key = .error e) :
    Served A router start key s := by
  intro owner client howner hclient
  unfold fate at h
  rw [howner] at h
  simp only [hclient] at h
  cases h

theorem Bound.mono {s' : State Cluster Handle} {job : Job Handle}
    (hgrown : ∀ address client, s.cache.find? address = some client →
      s'.cache.find? address = some client)
    (h : Bound A router start keys s job) : Bound A router start keys s' job := by
  cases job with
  | get flight =>
    cases flight with
    | leaving key owner outcome =>
      refine ⟨h.1, fun owner client howner hclient => ?_⟩
      exact hgrown owner client (h.2 owner client howner hclient)
    | _ => exact h
  | _ => exact h

theorem Kept.mono {s' : State Cluster Handle} {back : Return Handle}
    (hgrown : ∀ address client, s.cache.find? address = some client →
      s'.cache.find? address = some client)
    (h : Kept A router start s back) : Kept A router start s' back :=
  ⟨h.1, fun owner client howner hclient => hgrown owner client (h.2 owner client howner hclient)⟩

theorem settled {job : Job Handle}
    {o : Outcome (State Cluster Handle) Wire Handle A (Thread Handle)}
    (hsteady : Steady A router start keys s) (hbound : Bound A router start keys s job)
    (hw : router.Worked Cluster.parties s job o) : Settled A router start keys s job o := by
  cases hw with
  | @lost key e h =>
    rw [hsteady.lookup key] at h ⊢
    have hfate : fate A router start key = .error e := by
      unfold fate
      rw [show Cluster.lookup key start.world = .error e from h]
    refine ⟨hsteady, fun _ _ h => h, ?_, by simp, rfl, by simp⟩
    intro j hj
    rw [List.mem_singleton.mp hj]
    exact ⟨hfate.symm, served_of_error hfate⟩
  | @resolved key owner h =>
    rw [hsteady.lookup key] at h ⊢
    refine ⟨hsteady, fun _ _ h => h, ?_, by simp, rfl, by simp⟩
    intro j hj
    rw [List.mem_singleton.mp hj]
    exact ⟨hbound, h⟩
  | hit h =>
    obtain ⟨hfate, hserved⟩ := served_of_cached hsteady hbound.2 h
    refine ⟨hsteady, fun _ _ h => h, ?_, by simp, rfl, by simp [Visit.empties]⟩
    intro j hj
    rw [List.mem_singleton.mp hj]
    exact ⟨hfate.symm, hserved⟩
  | overtaken h =>
    obtain ⟨hfate, hserved⟩ := served_of_cached hsteady hbound.2 h
    refine ⟨hsteady, fun _ _ h => h, ?_, by simp, rfl, by simp [Visit.empties]⟩
    intro j hj
    rw [List.mem_singleton.mp hj]
    exact ⟨hfate.symm, hserved⟩
  | missed h =>
    refine ⟨hsteady, fun _ _ h => h, ?_, by simp, rfl, by simp [Visit.empties]⟩
    intro j hj
    rw [List.mem_singleton.mp hj]
    exact hbound
  | @failed key owner stage e world calls h hstage hb =>
    obtain ⟨hanswer, -, here, there, hworld, hcounts⟩ := hsteady.build h
    rw [hb] at hanswer hworld hcounts
    have hfate : fate A router start key = .error e := by
      unfold fate
      rw [hbound.2]
      exact hanswer.symm
    refine ⟨⟨⟨here, there, hworld, ?_⟩, hsteady.kept, hsteady.promised, hsteady.asked⟩,
      fun _ _ h => h, ?_, by simp, rfl, by simp [Visit.empties]⟩
    · intro address haddress
      exact hcounts address haddress (by simp)
    · intro j hj
      rw [List.mem_singleton.mp hj]
      exact ⟨hfate.symm, served_of_error hfate⟩
  | @built key owner kind client world calls h hb =>
    obtain ⟨hanswer, -, here, there, hworld, hcounts⟩ := hsteady.build h
    rw [hb] at hanswer hworld hcounts
    have hsteady' : Steady A router start keys ⟨world, s.cache.insert owner client⟩ :=
      hsteady.insert h hbound.1 hbound.2 hanswer.symm
        ⟨here, there, hworld, fun address haddress hne => hcounts address haddress fun _ _ => hne⟩
    obtain ⟨hfate, hserved⟩ := served_of_cached hsteady' hbound.2
      (show (s.cache.insert owner client).find? owner = some client by
        rw [Cache.find?_insert, if_pos rfl])
    refine ⟨hsteady', Cache.grown_insert h client, ?_, by simp, rfl, by simp [Visit.empties]⟩
    intro j hj
    rw [List.mem_singleton.mp hj]
    exact ⟨hfate.symm, hserved⟩
  | gaveUp =>
    refine ⟨hsteady, fun _ _ h => h, by simp, ?_, rfl, by simp⟩
    intro back hback
    rw [List.mem_singleton.mp hback]
    exact hbound
  | cameBack =>
    refine ⟨hsteady, fun _ _ h => h, by simp, ?_, rfl, by simp⟩
    intro back hback
    rw [List.mem_singleton.mp hback]
    exact hbound
  | removed | absent | reported | handled | ignored | applied => exact hbound.elim

end Router

end KeyRoute
