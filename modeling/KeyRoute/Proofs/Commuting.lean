-- Operations on different addresses. Let the collaborators keep an account for each address, and to
-- a script that none of them changes. Then an operation goes by the accounts of its own addresses
-- and by their places in the cache, and touches no others. So two operations without a common
-- address do not meet, whichever comes first, and two keys of one owner are names of one place.
import KeyRoute.Proofs.Isolation
import KeyRoute.Proofs.Making
import KeyRoute.Proofs.Script

namespace KeyRoute

variable {W T C A N K P S α β : Type}

/-! ## Accounts -/

/-- How a state is read: what holds for all addresses, and what is kept for each of them. -/
structure Ledger (S K P : Type) where
  script : S → K
  account : Address → S → P

namespace Ledger

/-- As long as a script holds, a step touches some addresses only. It keeps to the script, goes by
the accounts of these addresses, and leaves the others as they are. -/
structure Touches (ledger : Ledger S K P) (k : K) (addresses : List Address) (step : S → α × S) :
    Prop where
  script : ∀ s, ledger.script s = k → ledger.script (step s).2 = k
  others : ∀ s, ledger.script s = k → ∀ a, a ∉ addresses →
    ledger.account a (step s).2 = ledger.account a s
  own : ∀ s s', ledger.script s = k → ledger.script s' = k →
    (∀ a ∈ addresses, ledger.account a s = ledger.account a s') →
    (step s).1 = (step s').1 ∧
      ∀ a ∈ addresses, ledger.account a (step s).2 = ledger.account a (step s').2

namespace Touches

variable {ledger : Ledger S K P} {k : K} {addresses more : List Address} {step : S → α × S}
  {other : S → β × S}

/-- A step that touches few addresses touches no more of many. -/
theorem mono (h : ledger.Touches k addresses step) (hsub : addresses ⊆ more) :
    ledger.Touches k more step where
  script := h.script
  others s hs a ha := h.others s hs a fun hmem => ha (hsub hmem)
  own s s' hs hs' hsame := by
    obtain ⟨hanswer, howned⟩ := h.own s s' hs hs' fun a ha => hsame a (hsub ha)
    refine ⟨hanswer, fun a ha => ?_⟩
    by_cases hmem : a ∈ addresses
    · exact howned a hmem
    · rw [h.others s hs a hmem, h.others s' hs' a hmem, hsame a ha]

/-- A step goes by the script and the accounts, and by nothing else. -/
theorem same (h : ledger.Touches k addresses step) {s s' : S} (hs : ledger.script s = k)
    (hs' : ledger.script s' = k) (hsame : ∀ a, ledger.account a s = ledger.account a s') :
    (step s).1 = (step s').1 ∧
      ∀ a, ledger.account a (step s).2 = ledger.account a (step s').2 := by
  refine ⟨(h.own s s' hs hs' fun a _ => hsame a).1, fun a => ?_⟩
  have hwide := h.mono (List.subset_cons_self a addresses)
  exact (hwide.own s s' hs hs' fun b _ => hsame b).2 a List.mem_cons_self

/-- What comes after a step on other addresses does not notice it. -/
theorem unnoticed (h : ledger.Touches k addresses step) (h' : ledger.Touches k more other)
    (hdisjoint : addresses.Disjoint more) {s : S} (hs : ledger.script s = k) :
    (other (step s).2).1 = (other s).1 ∧
      ∀ a ∈ more, ledger.account a (other (step s).2).2 = ledger.account a (other s).2 :=
  h'.own _ s (h.script s hs) hs fun a ha => h.others s hs a fun hmem => hdisjoint hmem ha

/-- Steps on different addresses do not meet: each gives the same in either order, and both orders
leave the same accounts. -/
theorem commute (h : ledger.Touches k addresses step) (h' : ledger.Touches k more other)
    (hdisjoint : addresses.Disjoint more) {s : S} (hs : ledger.script s = k) :
    (other (step s).2).1 = (other s).1 ∧ (step (other s).2).1 = (step s).1 ∧
      ∀ a, ledger.account a (other (step s).2).2 = ledger.account a (step (other s).2).2 := by
  obtain ⟨hanswer, howned⟩ := h.unnoticed h' hdisjoint hs
  obtain ⟨hanswer', howned'⟩ := h'.unnoticed h (fun _ hmem hmem' => hdisjoint hmem' hmem) hs
  refine ⟨hanswer, hanswer', fun a => ?_⟩
  -- An address is left as the one step leaves it that touches it, if any does.
  by_cases hmine : a ∈ addresses
  · have hnot : a ∉ more := fun hmem => hdisjoint hmine hmem
    rw [h'.others _ (h.script s hs) a hnot, howned' a hmine]
  · rw [h.others _ (h'.script s hs) a hmine]
    by_cases hother : a ∈ more
    · exact howned a hother
    · rw [h'.others _ (h.script s hs) a hother, h.others s hs a hmine, h'.others s hs a hother]

end Touches

/-- The ledger of a router: an address has an account and a place in the cache. -/
def cached (ledger : Ledger W K P) : Ledger (State W C) K (P × Option C) where
  script s := ledger.script s.world
  account address s := (ledger.account address s.world, s.cache.find? address)

/-- Collaborators that keep to a ledger. Who owns a key and who this node is stands in the script,
and so does which of their calls fail. To make a handle touches only the address that it is for:
that of this node, or that to which its transport client sends. -/
structure Kept (ledger : Ledger W K P) (target : T → Address) (parties : Collaborators W T C) :
    Prop where
  lookup : ∀ k key, ledger.Touches k [] (parties.lookup key)
  whoAmI : ∀ k, ledger.Touches k [] parties.whoAmI
  newClient : ∀ k service address, ledger.Touches k [address] (parties.newClient service address)
  sends_to : ∀ service address w transport,
    (parties.newClient service address w).1 = .ok transport → target transport = address
  remoteClient : ∀ k transport,
    ledger.Touches k [target transport] (parties.remoteClient transport)
  localClient : ∀ w me, (parties.whoAmI w).1 = .ok me →
    ledger.Touches (ledger.script w) [me] parties.localClient
  newClient_fails : ∀ service address w w', ledger.script w = ledger.script w' →
    errorOf (parties.newClient service address w).1 =
      errorOf (parties.newClient service address w').1
  remoteClient_fails : ∀ transport transport' w w', target transport = target transport' →
    ledger.script w = ledger.script w' →
    errorOf (parties.remoteClient transport w).1 = errorOf (parties.remoteClient transport' w').1
  localClient_fails : ∀ w w', ledger.script w = ledger.script w' →
    errorOf (parties.localClient w).1 = errorOf (parties.localClient w').1

end Ledger

/-! ## Scripted collaborators -/

namespace Cluster

/-- A cluster counts the handles for each address, and on this node those of its own kind, too. -/
def ledger : Ledger Cluster Cluster (Nat × Nat) where
  script cluster := cluster.counting 0 fun _ => 0
  account address cluster :=
    (cluster.remoteBuilt address, if address = cluster.me then cluster.localBuilt else 0)

/-- Who this node is and what fails stands in the script. -/
theorem of_script {s s' : Cluster} (h : ledger.script s = ledger.script s') :
    s.me = s'.me ∧ s.localFailure = s'.localFailure ∧
      s.channelFailures = s'.channelFailures ∧ s.remoteFailures = s'.remoteFailures := by
  simp only [ledger, counting, Cluster.mk.injEq] at h
  obtain ⟨hme, -, -, -, -, -, hlocal, hchannel, hremote, -⟩ := h
  exact ⟨hme, hlocal, hchannel, hremote⟩

/-- What a collaborator answers from its script alone touches nothing. -/
theorem touches_script (k : Cluster) (addresses : List Address) (answer : Cluster → α)
    (h : ∀ cluster, answer (ledger.script cluster) = answer cluster) :
    ledger.Touches k addresses fun cluster => (answer cluster, cluster) where
  script _ hs := hs
  others _ _ _ _ := rfl
  own s s' hs hs' hsame := by
    refine ⟨?_, hsame⟩
    change answer s = answer s'
    rw [← h s, ← h s', hs, hs']

theorem touches_remote (k : Cluster) (wire : Wire) :
    ledger.Touches k [wire.address] (remoteClient wire) where
  script s hs := by
    unfold remoteClient
    split <;> exact hs
  others s _ a ha := by
    have hne : a ≠ wire.address := fun heq => ha (heq ▸ List.mem_singleton_self _)
    unfold remoteClient
    split
    · rfl
    · simp [ledger, hne]
  own s s' hs hs' hsame := by
    obtain ⟨-, -, -, hfails⟩ := of_script (hs.trans hs'.symm)
    obtain ⟨hcount, hown⟩ := Prod.mk.inj (hsame wire.address (List.mem_singleton_self _))
    unfold remoteClient
    rw [hfails, hcount]
    cases s'.remoteFailures.at? wire.address with
    | some e => exact ⟨rfl, hsame⟩
    | none =>
      refine ⟨rfl, fun a ha => ?_⟩
      rw [List.mem_singleton.mp ha]
      exact Prod.ext (by simp [ledger]) hown

theorem touches_local (k : Cluster) : ledger.Touches k [k.me] localClient where
  script s hs := by
    unfold localClient
    split <;> exact hs
  others s hs a ha := by
    have hme : s.me = k.me := by rw [← hs]; rfl
    have hne : a ≠ s.me := fun heq => ha (by rw [heq, hme]; exact List.mem_singleton_self _)
    unfold localClient
    split
    · rfl
    · simp [ledger, hne]
  own s s' hs hs' hsame := by
    have hme : s.me = k.me := by rw [← hs]; rfl
    have hme' : s'.me = k.me := by rw [← hs']; rfl
    obtain ⟨-, hfails, -, -⟩ := of_script (hs.trans hs'.symm)
    obtain ⟨hcount, hown⟩ := Prod.mk.inj (hsame k.me (List.mem_singleton_self _))
    rw [if_pos hme.symm, if_pos hme'.symm] at hown
    unfold localClient
    rw [hfails, hown]
    cases s'.localFailure with
    | some e => exact ⟨rfl, hsame⟩
    | none =>
      refine ⟨rfl, fun a ha => ?_⟩
      rw [List.mem_singleton.mp ha]
      simp [ledger, hme, hme', hcount]

/-- Scripted collaborators keep to their ledger. -/
theorem kept : ledger.Kept Wire.address parties where
  lookup k key := touches_script k [] (lookup key) fun _ => rfl
  whoAmI k := touches_script k [] (fun cluster => failing cluster.whoAmIFailure cluster.me)
    fun _ => rfl
  newClient k service address := touches_script k [address]
    (fun cluster => failing (cluster.channelFailures.at? address) (Wire.mk service address))
    fun _ => rfl
  sends_to service address w transport h := by
    simp only [parties, failing] at h
    split at h
    · cases h
    · cases h
      rfl
  remoteClient := touches_remote
  localClient w me h := by
    simp only [parties, failing] at h
    split at h
    · cases h
    · cases h
      exact touches_local (ledger.script w)
  newClient_fails service address w w' h := by
    obtain ⟨-, -, hfails, -⟩ := of_script h
    simp only [parties, hfails]
  remoteClient_fails transport transport' w w' htarget h := by
    obtain ⟨-, -, -, hfails⟩ := of_script h
    simp only [parties, remoteClient, htarget, hfails]
    split <;> rfl
  localClient_fails w w' h := by
    obtain ⟨-, hfails, -, -⟩ := of_script h
    simp only [parties, localClient, hfails]
    split <;> rfl

end Cluster

/-! ## Actions on some addresses -/

namespace Act

/-- All that comes of an action, as a step from state to state. -/
def seen (action : Act S T C A α) (s : S) : (α × Trace T C A) × S :=
  (((action s).answer, (action s).trace), (action s).state)

/-- The action of a router touches some addresses only. -/
abbrev Confined (ledger : Ledger W K P) (k : K) (addresses : List Address)
    (action : Act (State W C) T C A α) : Prop :=
  ledger.cached.Touches k addresses action.seen

variable {ledger : Ledger W K P} {k : K} {addresses : List Address}

/-- What comes next has to be confined for the answers only that there can be. -/
theorem confined_bind_of {first : Act (State W C) T C A α} {next : α → Act (State W C) T C A β}
    (h : first.Confined ledger k addresses)
    (h' : ∀ s, ledger.script s.world = k → (next (first s).answer).Confined ledger k addresses) :
    (first >>= next).Confined ledger k addresses where
  script s hs := (h' s hs).script _ (h.script s hs)
  others s hs a ha :=
    ((h' s hs).others _ (h.script s hs) a ha).trans (h.others s hs a ha)
  own s s' hs hs' hsame := by
    obtain ⟨hseen, howned⟩ := h.own s s' hs hs' hsame
    obtain ⟨hanswer, htrace⟩ := Prod.mk.inj hseen
    obtain ⟨hseen', howned'⟩ := (h' s hs).own _ _ (h.script s hs) (h.script s' hs') howned
    obtain ⟨hanswer', htrace'⟩ := Prod.mk.inj hseen'
    simp only [seen, bind_apply] at *
    rw [hanswer] at hanswer' htrace' howned' ⊢
    exact ⟨Prod.ext hanswer' (congrArg₂ (· ++ ·) htrace htrace'), howned'⟩

theorem confined_bind {first : Act (State W C) T C A α} {next : α → Act (State W C) T C A β}
    (h : first.Confined ledger k addresses)
    (h' : ∀ answer, (next answer).Confined ledger k addresses) :
    (first >>= next).Confined ledger k addresses :=
  confined_bind_of h fun s _ => h' (first s).answer

/-- An action that only says something touches nothing. -/
theorem confined_still {action : Act (State W C) T C A α} (answer : α) (trace : Trace T C A)
    (h : ∀ s, action s = ⟨answer, s, trace⟩) : action.Confined ledger k addresses where
  script s hs := by rwa [seen, h]
  others s _ _ _ := by rw [seen, h]
  own s s' _ _ hsame := by
    simp only [seen, h]
    exact ⟨trivial, hsame⟩

theorem confined_pure (answer : α) :
    (pure answer : Act (State W C) T C A α).Confined ledger k addresses :=
  confined_still _ _ fun _ => rfl

theorem confined_note (notices : List Notice) :
    (note notices : Act (State W C) T C A Unit).Confined ledger k addresses :=
  confined_still _ _ fun _ => rfl

theorem confined_count (moves : List Move) :
    (count moves : Act (State W C) T C A Unit).Confined ledger k addresses :=
  confined_still _ _ fun _ => rfl

theorem confined_record (c : Call T A) :
    (record c : Act (State W C) T C A Unit).Confined ledger k addresses :=
  confined_still _ _ fun _ => rfl

theorem confined_visit (v : Visit C) :
    (visit v : Act (State W C) T C A Unit).Confined ledger k addresses :=
  confined_still _ _ fun _ => rfl

/-- To look for a handle is to look at its address. -/
theorem confined_find {address : Address} (h : address ∈ addresses) (f : Option C → α) :
    (look (fun s => f (s.cache.find? address)) :
      Act (State W C) T C A α).Confined ledger k addresses where
  script _ hs := hs
  others _ _ _ _ := rfl
  own s s' _ _ hsame := by
    have hplace : s.cache.find? address = s'.cache.find? address :=
      congrArg Prod.snd (hsame address h)
    simp only [seen, look_apply, hplace]
    exact ⟨trivial, hsame⟩

/-- A change of the cache at an address leaves the others alone. -/
theorem confined_change {address : Address} (h : address ∈ addresses) {f : Cache C → Cache C}
    {held : Option C}
    (hf : ∀ cache other, (f cache).find? other =
      if other = address then held else cache.find? other) :
    (change (fun s => { s with cache := f s.cache }) :
      Act (State W C) T C A Unit).Confined ledger k addresses where
  script _ hs := hs
  others s _ a ha := by
    have hne : a ≠ address := fun heq => ha (heq ▸ h)
    simp only [seen, change_apply, Ledger.cached, hf, if_neg hne]
  own s s' _ _ hsame := by
    refine ⟨rfl, fun a ha => ?_⟩
    obtain ⟨haccount, hplace⟩ := Prod.mk.inj (hsame a ha)
    simp only [seen, change_apply, Ledger.cached, hf, haccount, hplace]

/-- To ask a collaborator touches what the collaborator touches. -/
theorem confined_ask {f : W → α × W} (h : ledger.Touches k addresses f) :
    (ask f : Act (State W C) T C A α).Confined ledger k addresses where
  script s hs := h.script s.world hs
  others s hs a ha := Prod.ext (h.others s.world hs a ha) rfl
  own s s' hs hs' hsame := by
    obtain ⟨hanswer, howned⟩ :=
      h.own s.world s'.world hs hs' fun a ha => congrArg Prod.fst (hsame a ha)
    refine ⟨Prod.ext hanswer rfl, fun a ha => Prod.ext (howned a ha) ?_⟩
    have hplace : s.cache.find? a = s'.cache.find? a := congrArg Prod.snd (hsame a ha)
    exact hplace

theorem confined_call (c : Call T A) {f : W → α × W} (h : ledger.Touches k addresses f) :
    (call c f : Act (State W C) T C A α).Confined ledger k addresses :=
  confined_bind (confined_record c) fun _ => confined_ask h

end Act

namespace Router

/-! ## A routing call after its look-up -/

section

variable (router : Router) (parties : Collaborators W T C)

/-- What a routing call does once it knows the owner of its key. -/
def fetch (owner : Address) : Act (State W C) T C A (Except RouteError C) := do
  match ← router.probe owner with
  | some client => return .ok client
  | none => router.ensure parties owner

theorem get_of_owner {key : String} {s : State W C} {owner : Address}
    (h : (parties.lookup key s.world).1 = .ok owner) :
    (router.get parties key (pure ()) : Act (State W C) T C A _) s =
      let f : Outcome (State W C) T C A _ := router.fetch parties owner (asked parties key s)
      ⟨f.answer, f.state, ⟨[.lookup key], [], [], []⟩ ++ f.trace⟩ := by
  unfold get
  simp only [Act.bind_apply, @resolve_ok W T C A router parties key (pure ()) s owner h]
  rfl

theorem fetch_held {owner : Address} {s : State W C} {client : C}
    (h : s.cache.find? owner = some client) :
    (router.fetch parties owner : Act (State W C) T C A _) s =
      ⟨.ok client, s,
        ⟨[], [], router.made [Sample.up (.hits .fast)], [.found .fast owner client]⟩⟩ := by
  unfold fetch
  simp only [Act.bind_apply, probe_some router h, Act.pure_apply, Trace.append_empty]

/-- Where no handle is held, one is built; it is kept, or else the cache stays as it was. -/
theorem fetch_missing {owner : Address} {s : State W C} (h : s.cache.find? owner = none) :
    let f : Outcome (State W C) T C A _ := router.fetch parties owner s
    let b : Outcome (State W C) T C A _ := router.build parties owner s
    f.answer = b.answer ∧
      (∀ e, b.answer = .error e → f.state.cache = s.cache) ∧
      ∀ client, b.answer = .ok client → f.state.cache.find? owner = some client := by
  have hcache := (router.building (A := A) parties owner s).cache
  unfold fetch
  simp only [Act.bind_apply, probe_none router h]
  cases hb : (router.build parties owner s : Outcome (State W C) T C A _).answer with
  | error e =>
    rw [ensure_error router parties h hb]
    exact ⟨rfl, fun _ _ => hcache, nofun⟩
  | ok client =>
    rw [ensure_ok router parties h hb]
    refine ⟨rfl, nofun, fun other hother => ?_⟩
    cases hother
    simp [Cache.find?_insert]

end

/-! ## Routers on some addresses -/

open Act

section

variable (router : Router) {parties : Collaborators W T C} {ledger : Ledger W K P}
  {target : T → Address} {k : K} {addresses : List Address} {owner address : Address}

theorem confined_failed (stage : Stage) (notice : Notice) (e : RouteError) :
    (router.failed stage notice e :
      Act (State W C) T C A (Except RouteError α)).Confined ledger k addresses :=
  confined_still _ _ fun s => router.failed_apply stage notice e s

theorem confined_leave (entry : Entry C) :
    (router.leave entry : Act (State W C) T C A C).Confined ledger k addresses :=
  confined_still _ _ fun s => router.leave_apply entry s

theorem confined_report :
    (router.report address : Act (State W C) T C A Unit).Confined ledger k addresses :=
  confined_still _ _ fun s => router.report_apply address s

theorem confined_read (h : owner ∈ addresses) :
    (read owner : Act (State W C) T C A _).Confined ledger k addresses := by
  apply confined_bind (confined_find h id)
  rintro (_ | client)
  · exact confined_bind (confined_visit _) fun _ => confined_pure _
  · exact confined_bind (confined_visit _) fun _ => confined_pure _

theorem confined_probe (h : owner ∈ addresses) :
    (router.probe owner : Act (State W C) T C A _).Confined ledger k addresses := by
  apply confined_bind (confined_read h)
  rintro (_ | entry)
  · exact confined_pure _
  · exact confined_bind (router.confined_leave entry) fun _ => confined_pure _

/-- To make a handle touches the address that it is for, be it that of this node. -/
theorem confined_make (hkept : ledger.Kept target parties) (h : owner ∈ addresses) {w : W}
    (hw : ledger.script w = k) {me : Address} (hme : (parties.whoAmI w).1 = .ok me) :
    (router.make parties owner me : Act (State W C) T C A _).Confined ledger k addresses := by
  unfold make kindFor
  by_cases hown : owner = me
  -- The handle of this node is made for its own address, and that is the owner's here.
  · rw [if_pos hown]
    subst hown hw
    exact confined_call _ ((hkept.localClient w owner hme).mono (by simpa using h))
  · rw [if_neg hown]
    apply confined_bind_of (confined_call _ ((hkept.newClient k _ owner).mono (by simpa using h)))
    intro s _
    cases hnew : (Act.call (.newClient router.serviceName owner)
      (parties.newClient router.serviceName owner) s : Outcome (State W C) T C A _).answer with
    | error e => exact confined_pure _
    | ok transport =>
      have htarget := hkept.sends_to _ owner s.world transport hnew
      exact confined_call _ ((hkept.remoteClient k transport).mono (by simpa [htarget] using h))

theorem confined_build (hkept : ledger.Kept target parties) (h : owner ∈ addresses) :
    (router.build parties owner : Act (State W C) T C A _).Confined ledger k addresses := by
  apply confined_bind_of (confined_call _ ((hkept.whoAmI k).mono (List.nil_subset _)))
  intro s hs
  cases hme : (Act.call .whoAmI parties.whoAmI s : Outcome (State W C) T C A _).answer with
  | error e => exact router.confined_failed _ _ e
  | ok me =>
    apply confined_bind (router.confined_make hkept h hs hme)
    rintro (e | client)
    · exact router.confined_failed _ _ e
    · refine confined_bind (confined_note _) fun _ => ?_
      exact confined_bind (confined_count _) fun _ => confined_pure _

theorem confined_enter (hkept : ledger.Kept target parties) (h : owner ∈ addresses) :
    (router.enter parties owner : Act (State W C) T C A _).Confined ledger k addresses := by
  apply confined_bind (confined_find h id)
  rintro (_ | client)
  · apply confined_bind (router.confined_build hkept h)
    rintro (e | client)
    · exact confined_bind (confined_visit _) fun _ => confined_pure _
    · have hinsert := fun (cache : Cache C) other => cache.find?_insert owner other client
      refine confined_bind (confined_change h hinsert) fun _ => ?_
      refine confined_bind (confined_count _) fun _ => ?_
      exact confined_bind (confined_visit _) fun _ => confined_pure _
  · exact confined_bind (confined_visit _) fun _ => confined_pure _

theorem confined_ensure (hkept : ledger.Kept target parties) (h : owner ∈ addresses) :
    (router.ensure parties owner : Act (State W C) T C A _).Confined ledger k addresses := by
  apply confined_bind (router.confined_enter hkept h)
  rintro (e | entry)
  · exact confined_pure _
  · exact confined_bind (router.confined_leave entry) fun _ => confined_pure _

theorem confined_resolve (hkept : ledger.Kept target parties) (key : String) :
    (router.resolve parties key (pure ()) : Act (State W C) T C A _).Confined ledger k
      addresses := by
  refine confined_bind (confined_record _) fun _ => confined_bind (confined_pure _) fun _ => ?_
  apply confined_bind (confined_ask ((hkept.lookup k key).mono (List.nil_subset _)))
  rintro (e | owner)
  · exact router.confined_failed _ _ e
  · exact confined_pure _

theorem confined_fetch (hkept : ledger.Kept target parties) (h : owner ∈ addresses) :
    (router.fetch parties owner : Act (State W C) T C A _).Confined ledger k addresses := by
  apply confined_bind (router.confined_probe h)
  rintro (_ | client)
  · exact router.confined_ensure hkept h
  · exact confined_pure _

theorem confined_get (hkept : ledger.Kept target parties) (key : String) {w : W}
    (hw : ledger.script w = k)
    (h : ∀ owner, (parties.lookup key w).1 = .ok owner → owner ∈ addresses) :
    (router.get parties key (pure ()) : Act (State W C) T C A _).Confined ledger k addresses := by
  apply confined_bind_of (router.confined_resolve hkept key)
  intro s hs
  -- The look-up stands in the script, so it answers now what it answered then.
  have hsame : (parties.lookup key s.world).1 = (parties.lookup key w).1 :=
    ((hkept.lookup k key).own s.world w hs hw (by simp)).1
  cases hl : (parties.lookup key s.world).1 with
  | error e =>
    rw [@resolve_error W T C A router parties key (pure ()) s e hl]
    exact confined_pure _
  | ok owner =>
    rw [@resolve_ok W T C A router parties key (pure ()) s owner hl]
    exact router.confined_fetch hkept (h owner (hsame.symm.trans hl))

theorem confined_withdraw (h : address ∈ addresses) :
    (router.withdraw address : Act (State W C) T C A Bool).Confined ledger k addresses := by
  apply confined_bind (confined_find h Option.isSome)
  intro there
  split
  · have herase := fun (cache : Cache C) other => cache.find?_erase address other
    refine confined_bind (confined_change h herase) fun _ => ?_
    refine confined_bind (confined_count _) fun _ => ?_
    exact confined_bind (confined_visit _) fun _ => confined_pure _
  · exact confined_bind (confined_visit _) fun _ => confined_pure _

theorem confined_remove (h : address ∈ addresses) :
    (router.remove address : Act (State W C) T C A Bool).Confined ledger k addresses := by
  apply confined_bind (router.confined_withdraw h)
  intro there
  dsimp only
  split
  · exact confined_bind router.confined_report fun _ => confined_pure _
  · exact confined_pure _

theorem confined_applyChange {change : Change} (h : change.address ∈ addresses) :
    (router.applyChange change : Act (State W C) T C A Unit).Confined ledger k addresses := by
  apply confined_bind_of (confined_still _ _ fun s => judge_apply change s)
  intro s _
  rw [judge_apply]
  cases change.evicts with
  | true => exact confined_bind (router.confined_remove h) fun _ => confined_pure _
  | false => exact confined_pure _

theorem confined_applyBatch {batch : List Change}
    (h : ∀ change ∈ batch, change.address ∈ addresses) :
    (router.applyBatch batch : Act (State W C) T C A Unit).Confined ledger k addresses := by
  induction batch with
  | nil => exact confined_pure _
  | cons change batch ih =>
    refine confined_bind (router.confined_applyChange (h change List.mem_cons_self)) fun _ => ?_
    exact ih fun other hother => h other (List.mem_cons_of_mem _ hother)

end

end Router

/-! ## Operations -/

/-- A request as an operation, with a look-up that does nothing on the router. -/
def Request.op : Request → Op N
  | .get key => .get key []
  | .remove address => .remove address
  | .handle event => .handle [event]

/-- The addresses that a request is about: the owner of the key, if there is one, the address to be
removed, or all that are named in a batch. -/
def Request.concerns (parties : Collaborators W T C) (w : W) : Request → List Address
  | .get key => (parties.lookup key w).1.toOption.toList
  | .remove address => [address]
  | .handle (.changes batch) => batch.map (·.address)
  | .handle (.announcement _) => []

namespace Router

open Act

variable (router : Router) {parties : Collaborators W T C} {ledger : Ledger W K P}
  {target : T → Address}

/-- An operation touches only the addresses that it is about. -/
theorem confined_run (hkept : ledger.Kept target parties) (request : Request) (w : W) :
    (router.run parties request.op : Act (State W C) T C (Answer C N) (Answer C N)).Confined ledger
      (ledger.script w) (request.concerns parties w) := by
  cases request with
  | get key =>
    refine confined_bind (router.confined_get hkept key rfl ?_) fun _ => confined_pure _
    intro owner howner
    simp [Request.concerns, howner, Except.toOption]
  | remove address =>
    refine confined_bind (router.confined_remove ?_) fun _ => confined_pure _
    exact List.mem_singleton_self address
  | handle event =>
    refine confined_bind (confined_bind ?_ fun _ => confined_pure _) fun _ => confined_pure _
    cases event with
    | announcement content => exact confined_note _
    | changes batch => exact router.confined_applyBatch fun change hmem => List.mem_map_of_mem hmem

theorem sorted_run (op : Op N) {s : State W C} (h : s.cache.Sorted) :
    (router.run parties op s : Outcome (State W C) T C (Answer C N) _).state.cache.Sorted :=
  sorted_of_faithful (router.tells_run parties op) h

/-- Two operations without a common address give the same in either order. -/
theorem run_commute (hkept : ledger.Kept target parties) {s : State W C} {x y : Request}
    (hdisjoint : (x.concerns parties s.world).Disjoint (y.concerns parties s.world)) :
    let first : Outcome (State W C) T C (Answer C N) _ := router.run parties x.op s
    let second : Outcome (State W C) T C (Answer C N) _ := router.run parties y.op first.state
    let first' : Outcome (State W C) T C (Answer C N) _ := router.run parties y.op s
    let second' : Outcome (State W C) T C (Answer C N) _ := router.run parties x.op first'.state
    (first.answer = second'.answer ∧ first.trace = second'.trace) ∧
    (second.answer = first'.answer ∧ second.trace = first'.trace) ∧
    (∀ a, second.state.cache.find? a = second'.state.cache.find? a) ∧
    ledger.script second.state.world = ledger.script second'.state.world ∧
    ∀ a, ledger.account a second.state.world = ledger.account a second'.state.world := by
  intro first second first' second'
  have hx := router.confined_run (C := C) (N := N) hkept x s.world
  have hy := router.confined_run (C := C) (N := N) hkept y s.world
  obtain ⟨hsecond, hsecond', haccounts⟩ := hx.commute hy hdisjoint (s := s) rfl
  obtain ⟨hanswer, htrace⟩ := Prod.mk.inj hsecond
  obtain ⟨hanswer', htrace'⟩ := Prod.mk.inj hsecond'
  refine ⟨⟨hanswer'.symm, htrace'.symm⟩, ⟨hanswer, htrace⟩, fun a => ?_, ?_, fun a => ?_⟩
  · exact congrArg Prod.snd (haccounts a)
  · exact (hy.script _ (hx.script s rfl)).trans (hx.script _ (hy.script s rfl)).symm
  · exact congrArg Prod.fst (haccounts a)

/-! ## Operations on one address -/

/-- Whether a handle can be made stands in the script. -/
theorem make_fails (hkept : ledger.Kept target parties) (owner me : Address) {s s' : State W C}
    (h : ledger.script s.world = ledger.script s'.world) :
    errorOf (router.make parties owner me s : Outcome (State W C) T C A _).answer =
      errorOf (router.make parties owner me s' : Outcome (State W C) T C A _).answer := by
  by_cases hown : me = owner
  · subst hown
    rw [make_own, make_own]
    exact hkept.localClient_fails _ _ h
  have hfails := hkept.newClient_fails router.serviceName owner _ _ h
  cases hnew : (parties.newClient router.serviceName owner s.world).1 with
  | error e =>
    cases hnew' : (parties.newClient router.serviceName owner s'.world).1 with
    | error e' =>
      rw [make_unreached router parties hown hnew, make_unreached router parties hown hnew']
      rwa [hnew, hnew'] at hfails
    | ok transport' => simp [hnew, hnew', errorOf] at hfails
  | ok transport =>
    cases hnew' : (parties.newClient router.serviceName owner s'.world).1 with
    | error e' => simp [hnew, hnew', errorOf] at hfails
    | ok transport' =>
      rw [make_remote router parties hown hnew, make_remote router parties hown hnew']
      have hsame : target transport = target transport' :=
        (hkept.sends_to _ _ _ _ hnew).trans (hkept.sends_to _ _ _ _ hnew').symm
      apply hkept.remoteClient_fails _ _ _ _ hsame
      rw [(hkept.newClient _ _ owner).script _ h, (hkept.newClient _ _ owner).script _ rfl]

theorem build_fails (hkept : ledger.Kept target parties) (owner : Address) {s s' : State W C}
    (h : ledger.script s.world = ledger.script s'.world) :
    errorOf (router.build parties owner s : Outcome (State W C) T C A _).answer =
      errorOf (router.build parties owner s' : Outcome (State W C) T C A _).answer := by
  have hsame : (parties.whoAmI s.world).1 = (parties.whoAmI s'.world).1 :=
    ((hkept.whoAmI _).own _ _ h rfl (by simp)).1
  cases hme : (parties.whoAmI s'.world).1 with
  | error e =>
    rw [build_unknown router parties (hsame.trans hme), build_unknown router parties hme]
  | ok me =>
    obtain ⟨hbuild, -⟩ := build_known (A := A) router parties (hsame.trans hme)
    obtain ⟨hbuild', -⟩ := build_known (A := A) router parties hme
    rw [hbuild, hbuild']
    apply router.make_fails hkept
    exact ((hkept.whoAmI _).script _ h).trans ((hkept.whoAmI _).script _ rfl).symm

/-- A later call for the same owner gets the same, if nothing was done with the cache in between. -/
theorem fetch_again (hkept : ledger.Kept target parties) {owner : Address} {s s' : State W C}
    (hscript : ledger.script s'.world = ledger.script s.world)
    (hcache : s'.cache = (router.fetch parties owner s : Outcome (State W C) T C A _).state.cache) :
    (router.fetch parties owner s' : Outcome (State W C) T C A _).answer =
      (router.fetch parties owner s : Outcome (State W C) T C A _).answer := by
  cases hheld : s.cache.find? owner with
  | some client =>
    rw [router.fetch_held parties hheld] at hcache ⊢
    rw [router.fetch_held parties (by rw [hcache, hheld])]
  | none =>
    obtain ⟨hanswer, hfailed, hbuilt⟩ := router.fetch_missing (A := A) parties hheld
    rw [hanswer]
    cases hb : (router.build parties owner s : Outcome (State W C) T C A _).answer with
    | ok client =>
      have hthere : s'.cache.find? owner = some client := by rw [hcache, hbuilt client hb]
      rw [router.fetch_held parties hthere]
    | error e =>
      -- Nothing was cached, so the second call builds again, and fails as the script says.
      have hmissing : s'.cache.find? owner = none := by rw [hcache, hfailed e hb, hheld]
      have hfails := router.build_fails (A := A) (C := C) hkept owner hscript
      rw [(router.fetch_missing (A := A) parties hmissing).1]
      rw [hb] at hfails
      cases hb' : (router.build parties owner s' : Outcome (State W C) T C A _).answer with
      | ok client => simp [hb', errorOf] at hfails
      | error e' => simpa [hb', errorOf] using hfails

/-- To be told of an owner leaves nothing behind. -/
theorem asked_same (hkept : ledger.Kept target parties) (key : String) (s : State W C) :
    ledger.script (asked parties key s).world = ledger.script s.world ∧
      ∀ a, ledger.cached.account a (asked parties key s) = ledger.cached.account a s := by
  have hidle := hkept.lookup (ledger.script s.world) key
  exact ⟨hidle.script _ rfl, fun a => Prod.ext (hidle.others _ rfl a List.not_mem_nil) rfl⟩

/-- It does not matter for which key a call was told of the owner. -/
theorem fetch_same (hkept : ledger.Kept target parties) (owner : Address) (key key' : String)
    (s : State W C) :
    let f : Outcome (State W C) T C A _ := router.fetch parties owner (asked parties key s)
    let f' : Outcome (State W C) T C A _ := router.fetch parties owner (asked parties key' s)
    f.answer = f'.answer ∧ f.trace = f'.trace ∧
      ∀ a, ledger.account a f.state.world = ledger.account a f'.state.world := by
  intro f f'
  obtain ⟨hscript, haccounts⟩ := asked_same hkept key s
  obtain ⟨hscript', haccounts'⟩ := asked_same hkept key' s
  have hfetch : (router.fetch parties owner : Act (State W C) T C A _).Confined ledger
      (ledger.script s.world) [owner] :=
    router.confined_fetch hkept (List.mem_singleton_self owner)
  obtain ⟨hseen, hleft⟩ := hfetch.same hscript hscript' fun a =>
    (haccounts a).trans (haccounts' a).symm
  obtain ⟨hanswer, htrace⟩ := Prod.mk.inj hseen
  exact ⟨hanswer, htrace, fun a => congrArg Prod.fst (hleft a)⟩

/-- A key matters only for what the look-up answers. -/
theorem get_by_owner (hkept : ledger.Kept target parties) {key key' : String} {s : State W C}
    (h : (parties.lookup key s.world).1 = (parties.lookup key' s.world).1) :
    let o : Outcome (State W C) T C A _ := router.get parties key (pure ()) s
    let o' : Outcome (State W C) T C A _ := router.get parties key' (pure ()) s
    o.answer = o'.answer ∧ o.state.cache = o'.state.cache ∧ o.trace.moves = o'.trace.moves ∧
    o.trace.visits = o'.trace.visits ∧
    (∀ a, ledger.account a o.state.world = ledger.account a o'.state.world) ∧
    (∃ calls, o.trace.calls = .lookup key :: calls ∧ o'.trace.calls = .lookup key' :: calls) ∧
    ∀ owner, (parties.lookup key s.world).1 = .ok owner → o.trace.log = o'.trace.log := by
  intro o o'
  cases hl : (parties.lookup key s.world).1 with
  | error e =>
    have ho : o = _ := @get_lost W T C A router parties key (pure ()) s e hl
    have ho' : o' = _ := @get_lost W T C A router parties key' (pure ()) s e (h.symm.trans hl)
    obtain ⟨-, haccounts⟩ := asked_same hkept key s
    obtain ⟨-, haccounts'⟩ := asked_same hkept key' s
    rw [ho, ho']
    refine ⟨rfl, rfl, rfl, rfl, fun a => ?_, ⟨[], rfl, rfl⟩, nofun⟩
    exact congrArg Prod.fst ((haccounts a).trans (haccounts' a).symm)
  | ok owner =>
    have ho : o = _ := router.get_of_owner parties hl
    have ho' : o' = _ := router.get_of_owner parties (h.symm.trans hl)
    obtain ⟨hanswer, htrace, haccounts⟩ := router.fetch_same (A := A) hkept owner key key' s
    have hvisits : o.trace.visits = o'.trace.visits := by
      rw [ho, ho', Trace.visits_append, Trace.visits_append, htrace]
    have htold : Leads s.cache o.trace.visits o.state.cache :=
      router.tells_get parties key (Act.faithful_pure ()) s
    have htold' : Leads s.cache o'.trace.visits o'.state.cache :=
      router.tells_get parties key' (Act.faithful_pure ()) s
    have hcache : o.state.cache = o'.state.cache := (hvisits ▸ htold).last_unique htold'
    refine ⟨?_, hcache, ?_, hvisits, ?_, ?_, fun _ _ => ?_⟩
    all_goals rw [ho, ho']
    · exact hanswer
    · rw [Trace.moves_append, Trace.moves_append, htrace]
    · exact haccounts
    · exact ⟨_, rfl, congrArg (_ :: ·) (congrArg Trace.calls htrace).symm⟩
    · rw [Trace.log_append, Trace.log_append, htrace]

/-- A call for another key of the same owner, made right after, gets the same. -/
theorem get_again (hkept : ledger.Kept target parties) {key key' : String} {s : State W C}
    {owner : Address} (h : (parties.lookup key s.world).1 = .ok owner)
    (h' : (parties.lookup key' s.world).1 = .ok owner) :
    let o : Outcome (State W C) T C A _ := router.get parties key (pure ()) s
    (router.get parties key' (pure ()) o.state : Outcome (State W C) T C A _).answer =
      o.answer := by
  intro o
  have ho : o = _ := router.get_of_owner parties h
  obtain ⟨hscript, -⟩ := asked_same hkept key s
  have hfetch : (router.fetch parties owner : Act (State W C) T C A _).Confined ledger
      (ledger.script s.world) [owner] :=
    router.confined_fetch hkept (List.mem_singleton_self owner)
  have hlast : ledger.script o.state.world = ledger.script s.world := by
    rw [ho]
    exact hfetch.script _ hscript
  have hlookup : (parties.lookup key' o.state.world).1 = .ok owner := by
    rw [← h']
    exact ((hkept.lookup _ key').own _ _ hlast rfl (by simp)).1
  have hagain : (router.fetch parties owner (asked parties key' o.state) :
      Outcome (State W C) T C A _).answer =
        (router.fetch parties owner (asked parties key s) : Outcome _ T C A _).answer :=
    router.fetch_again hkept
      ((asked_same hkept key' o.state).1.trans (hlast.trans hscript.symm)) (by rw [ho]; rfl)
  rw [router.get_of_owner parties hlookup]
  exact hagain.trans (by rw [ho])

/-- Take collaborators that keep an account for each address, and to a script. Two operations
without a common address do not meet: each gets the same answer and leaves the same trace, that is
the same calls, lines, moves and visits, whichever comes first; and both orders leave the same
cache, the same accounts and the same metrics, whatever these were before. Calls for two keys of one
owner get the same, each in either place. And a key matters only for what the look-up answers: calls
for keys that it answers alike get the same, and leave the same cache and the same moves of the
metrics. -/
theorem different_addresses_do_not_meet (hkept : ledger.Kept target parties) (s : State W C) :
    (∀ x y : Request, (x.concerns parties s.world).Disjoint (y.concerns parties s.world) →
      let first : Outcome (State W C) T C (Answer C N) _ := router.run parties x.op s
      let second : Outcome (State W C) T C (Answer C N) _ := router.run parties y.op first.state
      let first' : Outcome (State W C) T C (Answer C N) _ := router.run parties y.op s
      let second' : Outcome (State W C) T C (Answer C N) _ := router.run parties x.op first'.state
      (first.answer = second'.answer ∧ first.trace = second'.trace) ∧
      (second.answer = first'.answer ∧ second.trace = first'.trace) ∧
      ((∀ a, second.state.cache.find? a = second'.state.cache.find? a) ∧
        (s.cache.Sorted → second.state.cache = second'.state.cache)) ∧
      (ledger.script second.state.world = ledger.script second'.state.world ∧
        ∀ a, ledger.account a second.state.world = ledger.account a second'.state.world) ∧
      ∀ earlier : List Move,
        let moves := earlier ++ (first.trace.moves ++ second.trace.moves)
        let moves' := earlier ++ (first'.trace.moves ++ second'.trace.moves)
        (∀ sample, Metrics.value moves sample = Metrics.value moves' sample) ∧
          Metrics.lines moves = Metrics.lines moves') ∧
    (∀ key key' owner, (parties.lookup key s.world).1 = .ok owner →
      (parties.lookup key' s.world).1 = .ok owner →
      let first : Outcome (State W C) T C A _ := router.get parties key (pure ()) s
      let second : Outcome (State W C) T C A _ := router.get parties key' (pure ()) first.state
      let first' : Outcome (State W C) T C A _ := router.get parties key' (pure ()) s
      let second' : Outcome (State W C) T C A _ := router.get parties key (pure ()) first'.state
      first.answer = second.answer ∧ first.answer = first'.answer ∧
        first.answer = second'.answer) ∧
    ∀ key key', (parties.lookup key s.world).1 = (parties.lookup key' s.world).1 →
      let o : Outcome (State W C) T C A _ := router.get parties key (pure ()) s
      let o' : Outcome (State W C) T C A _ := router.get parties key' (pure ()) s
      o.answer = o'.answer ∧ o.state.cache = o'.state.cache ∧ o.trace.moves = o'.trace.moves ∧
      o.trace.visits = o'.trace.visits ∧
      (∀ a, ledger.account a o.state.world = ledger.account a o'.state.world) ∧
      (∃ calls, o.trace.calls = .lookup key :: calls ∧ o'.trace.calls = .lookup key' :: calls) ∧
      ∀ owner, (parties.lookup key s.world).1 = .ok owner → o.trace.log = o'.trace.log := by
  refine ⟨?_, ?_, fun _ _ h => router.get_by_owner hkept h⟩
  · intro x y hdisjoint first second first' second'
    obtain ⟨hx, hy, hplaces, hworld⟩ := router.run_commute (N := N) hkept hdisjoint
    refine ⟨hx, hy, ⟨hplaces, fun hsorted => ?_⟩, hworld, fun earlier => ?_⟩
    · apply Cache.eq_of_find? _ _ hplaces
      · exact router.sorted_run y.op (router.sorted_run x.op hsorted)
      · exact router.sorted_run x.op (router.sorted_run y.op hsorted)
    · intro moves moves'
      have hperm : moves.Perm moves' := by
        refine List.Perm.append_left earlier ?_
        rw [show first.trace = _ from hx.2, show second.trace = _ from hy.2]
        exact List.perm_append_comm
      exact ⟨Metrics.value_perm hperm, Metrics.lines_perm hperm⟩
  · intro key key' owner h h' first second first' second'
    have hsame : first.answer = first'.answer := (router.get_by_owner hkept (h.trans h'.symm)).1
    have hsecond : second.answer = first.answer := router.get_again hkept h h'
    have hsecond' : second'.answer = first'.answer := router.get_again hkept h' h
    exact ⟨hsecond.symm, hsame, hsame.trans hsecond'.symm⟩

/-- A call for one node, and a batch that takes away the handles of two others, in either order; and
calls for two keys of that node, one of which builds its handle. -/
theorem a_call_and_a_batch_in_either_order :
    let router : Router := ⟨"svc", true⟩
    let cluster := Cluster.start "a" "svc" [("k", "b"), ("l", "b")]
    let s : State Cluster Handle := ⟨cluster, ⟨[("a", .inProcess 1), ("c", .remote "svc" "c" 4)]⟩⟩
    let call : Op Empty := .get "k" []
    let batch : Op Empty := .handle [.changes [.new "c" .leave, .new "a" .faulty]]
    let run (op : Op Empty) (s : State Cluster Handle) :
        Outcome (State Cluster Handle) Wire Handle (Answer Handle Empty) (Answer Handle Empty) :=
      router.run Cluster.parties op s
    let get (key : String) (s : State Cluster Handle) :
        Outcome (State Cluster Handle) Wire Handle Empty (Except RouteError Handle) :=
      router.get Cluster.parties key (pure ()) s
    (run call (run batch s).state).answer = .got (.ok (.remote "svc" "b" 1)) ∧
    (run batch (run call s).state).trace.log = [.memberUnreachable (.new "c" .leave), .evicted "c",
      .memberUnreachable (.new "a" .faulty), .evicted "a"] ∧
    (run batch (run call s).state).state.cache.entries = [("b", .remote "svc" "b" 1)] ∧
    (get "l" (get "k" s).state).answer = .ok (.remote "svc" "b" 1) ∧
    (get "l" s).state.cache.find? "b" = some (.remote "svc" "b" 1) := by
  intro router cluster s call batch run get
  obtain ⟨hmeet, htwice, hkeys⟩ :=
    different_addresses_do_not_meet (N := Empty) (A := Empty) router Cluster.kept s
  have hsorted : s.cache.Sorted := by
    change List.Pairwise (fun a b => Text.before a b = true) ["a", "c"]
    decide +kernel
  have hdisjoint : List.Disjoint ["b"] ["c", "a"] := by simp
  obtain ⟨⟨hcall, -⟩, ⟨-, hbatch⟩, ⟨-, hcache⟩, -⟩ := hmeet (.get "k")
    (.handle (.changes [.new "c" .leave, .new "a" .faulty])) hdisjoint
  obtain ⟨hagain, -, -⟩ := htwice "k" "l" "b" rfl rfl
  obtain ⟨-, hsame, -⟩ := hkeys "k" "l" rfl
  have hfirst : (run call s).answer = .got (.ok (.remote "svc" "b" 1)) := by decide +kernel
  have hlog : (run batch s).trace.log = [.memberUnreachable (.new "c" .leave), .evicted "c",
      .memberUnreachable (.new "a" .faulty), .evicted "a"] := by decide +kernel
  have hleft : (run call (run batch s).state).state.cache.entries =
      [("b", .remote "svc" "b" 1)] := by decide +kernel
  have hbuilt : (get "k" s).answer = .ok (.remote "svc" "b" 1) := by decide +kernel
  have hkept : (get "k" s).state.cache.find? "b" = some (.remote "svc" "b" 1) := by
    decide +kernel
  -- From here on the equations are enough, and nothing is to be run again to compare them.
  clear_value s
  exact ⟨hcall.symm.trans hfirst, (congrArg Trace.log hbatch).trans hlog,
    (congrArg Cache.entries (hcache hsorted)).trans hleft, hagain.symm.trans hbuilt,
    (congrArg (Cache.find? · "b") hsame).symm.trans hkept⟩

end Router

end KeyRoute
