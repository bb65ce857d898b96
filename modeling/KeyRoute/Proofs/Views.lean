-- What a router shows of its cache: the addresses in a list, and of each address whether it is
-- there, and how many there are. Calls may overlap, and look-ups may run programs on the router; at
-- each moment the list is sorted by bytes and has no address twice, and all that is shown goes by
-- it. A removal takes its address off the list and a call that comes by a handle puts its owner on
-- it, and neither of them touches another address.
import KeyRoute.Proofs.Callbacks
import KeyRoute.Proofs.Latecomers

namespace KeyRoute

variable {W T C A N : Type}

/-! ## Sorted texts -/

namespace Text

/-- Texts sorted by bytes. -/
def sort (texts : List String) : List String := texts.mergeSort fun a b => !before b a

theorem before_asymm {a b : String} (h : before a b = true) : before b a = false := by
  by_contra hba
  have hcircle := before_trans h (Bool.not_eq_false _ ▸ hba)
  rw [before_irrefl] at hcircle
  cases hcircle

theorem not_before_trans {a b c : String} (hab : before b a = false) (hbc : before c b = false) :
    before c a = false := by
  simp only [before, decide_eq_false_iff_not, List.not_lt] at *
  exact List.le_trans hab hbc

theorem pairwise_sort (texts : List String) :
    (sort texts).Pairwise fun a b => before b a = false := by
  have h : (sort texts).Pairwise fun a b => (!before b a) = true := by
    unfold sort
    apply List.pairwise_mergeSort
    · intro a b c hab hbc
      rw [Bool.not_eq_true'] at *
      exact not_before_trans hab hbc
    · intro a b
      by_cases hba : before b a = true
      · simp [before_asymm hba]
      · simp [hba]
  exact h.imp fun hab => by simpa using hab

/-- Of texts in rising order none comes twice. -/
theorem nodup_of_rising {rising : List String}
    (h : rising.Pairwise fun a b => before a b = true) : rising.Nodup := by
  apply h.imp
  rintro a b hab rfl
  rw [before_irrefl] at hab
  cases hab

/-- A list in rising order is what sorting gives, in whatever order its texts come. -/
theorem sort_eq {texts rising : List String} (hrising : rising.Pairwise fun a b => before a b = true)
    (hnodup : texts.Nodup) (hsame : ∀ text, text ∈ texts ↔ text ∈ rising) :
    sort texts = rising := by
  have hperm : (sort texts).Perm rising :=
    (List.mergeSort_perm texts _).trans
      ((List.perm_ext_iff_of_nodup hnodup (nodup_of_rising hrising)).mpr hsame)
  refine hperm.eq_of_pairwise ?_ (pairwise_sort texts) (hrising.imp before_asymm)
  intro a b _ _ hab hba
  by_contra hne
  rcases before_total hne with h | h
  · rw [hba] at h
    cases h
  · rw [hab] at h
    cases h

end Text

/-- A handle that is held is at its place already. -/
theorem Cache.find?_of_held {cache : Cache C} {owner : Address} {client : C}
    (h : cache.find? owner = some client) (address : Address) :
    cache.find? address = if address = owner then some client else cache.find? address := by
  by_cases howner : address = owner
  · rw [if_pos howner, howner, h]
  · rw [if_neg howner]

/-! ## What is shown -/

namespace Router

variable (router : Router) (parties : Collaborators W T C)

/-- What a router shows of its cache at a moment. It lists the addresses in strictly rising byte
order, as anybody would who collected and sorted them; it says that an address is there if it is
listed, and how many are listed, and whether none is. To look changes nothing. -/
structure Shows (N : Type) (s : State W C) (listed : List Address) : Prop where
  addresses : (router.run parties (.addresses : Op N) : Act (State W C) T C (Answer C N) _) s =
    ⟨.listed listed, s, .empty⟩
  contains : ∀ address, ∃ found,
    (router.run parties (.contains address : Op N) : Act (State W C) T C (Answer C N) _) s =
      ⟨.contained found, s, .empty⟩ ∧ (found = true ↔ address ∈ listed)
  size : (router.run parties (.size : Op N) : Act (State W C) T C (Answer C N) _) s =
    ⟨.sized listed.length listed.isEmpty, s, .empty⟩
  rising : listed.Pairwise fun a b => Text.before a b = true
  once : listed.Nodup
  sorted : ∀ keys : List Address, keys.Nodup →
    (∀ address, address ∈ keys ↔ (s.cache.find? address).isSome) → Text.sort keys = listed

/-- All that is shown comes from the one cache, which is sorted. -/
theorem shows_addresses {s : State W C} (h : s.cache.Sorted) :
    router.Shows parties N s s.cache.addresses where
  addresses := rfl
  contains address := ⟨s.cache.contains address, rfl, Cache.mem_addresses_iff.symm⟩
  size := by
    have hlength : s.cache.addresses.length = s.cache.size := List.length_map _
    have hempty : s.cache.addresses.isEmpty = (s.cache.size == 0) := by
      rw [← hlength]
      cases s.cache.addresses <;> rfl
    rw [hlength, hempty]
    rfl
  rising := h
  once := Text.nodup_of_rising h
  sorted keys hnodup hkeys := by
    apply Text.sort_eq h hnodup
    intro address
    rw [hkeys, Cache.mem_addresses_iff]
    rfl

/-- Nothing else can be shown. -/
theorem Shows.eq {s : State W C} {listed : List Address} (h : router.Shows parties N s listed) :
    listed = s.cache.addresses := by
  have hanswer := congrArg Outcome.answer h.addresses
  exact (Answer.listed.inj hanswer).symm

/-! ## What takes an address off the list -/

/-- A removal. It finds a handle if its address was listed; then the address is listed no more, and
the others have the handles that they had. -/
structure Strikes (N : Type) (listed : List Address) (address : Address) (found : Bool)
    (s s' : State W C) : Prop where
  found : found = true ↔ address ∈ listed
  shows : router.Shows parties N s' (listed.filter (· != address))
  find? : ∀ other, s'.cache.find? other = if other = address then none else s.cache.find? other

theorem strikes_of_erase {address : Address} {s s' : State W C} (h : s.cache.Sorted)
    (hcache : s'.cache = s.cache.erase address) :
    router.Strikes parties N s.cache.addresses address (s.cache.contains address) s s' where
  found := Cache.mem_addresses_iff.symm
  shows := by
    rw [← Cache.addresses_erase, ← hcache]
    apply router.shows_addresses parties
    rw [hcache]
    exact Cache.sorted_erase s.cache address h
  find? other := by rw [hcache, Cache.find?_erase]

/-- A removal drops the handle and says whether there was one. -/
theorem remove_erases (address : Address) (s : State W C) :
    let o : Outcome (State W C) T C A Bool := router.remove address s
    o.answer = s.cache.contains address ∧ o.state.cache = s.cache.erase address := by
  cases h : s.cache.contains address with
  | true =>
    rw [remove_there router h]
    exact ⟨rfl, rfl⟩
  | false =>
    rw [remove_absent router h]
    exact ⟨rfl, (Cache.erase_of_absent h).symm⟩

/-- So does the step of a removal that takes the lock. -/
theorem work_erases (address : Address) (s : State W C) :
    let o : Outcome (State W C) T C A _ := router.work parties (.remove address) s
    o.trace.visits = [.removed address (s.cache.contains address)] ∧
      o.state.cache = s.cache.erase address := by
  cases h : s.cache.contains address with
  | true =>
    rw [router.work_removed parties h]
    exact ⟨rfl, rfl⟩
  | false =>
    rw [router.work_absent parties h]
    exact ⟨rfl, (Cache.erase_of_absent h).symm⟩

/-! ## What puts an address on the list -/

/-- A call that comes by a handle. At most its owner is new on the list, and it is there; the others
have the handles that they had. -/
structure Lists (N : Type) (listed : List Address) (owner : Address) (client : C)
    (s s' : State W C) : Prop where
  shows : ∃ listed', router.Shows parties N s' listed' ∧
    ∀ address, address ∈ listed' ↔ address = owner ∨ address ∈ listed
  find? : ∀ address,
    s'.cache.find? address = if address = owner then some client else s.cache.find? address

theorem lists_of_find? {owner : Address} {client : C} {s s' : State W C} (h : s'.cache.Sorted)
    (hfind : ∀ address,
      s'.cache.find? address = if address = owner then some client else s.cache.find? address) :
    router.Lists parties N s.cache.addresses owner client s s' where
  shows := by
    refine ⟨s'.cache.addresses, router.shows_addresses parties h, fun address => ?_⟩
    simp only [Cache.mem_addresses_iff, Cache.contains, hfind]
    by_cases howner : address = owner <;> simp [howner]
  find? := hfind

/-- A call that succeeds had an owner for its key, and what it comes back with is cached there. -/
theorem get_lists {key : String} {during : Act (State W C) T C A Unit} {s : State W C} {client : C}
    (h : (router.get parties key during s).answer = .ok client) :
    ∃ owner, (parties.lookup key (during s).state.world).1 = .ok owner ∧
      ∀ address, (router.get parties key during s).state.cache.find? address =
        if address = owner then some client else (during s).state.cache.find? address := by
  cases howner : (parties.lookup key (during s).state.world).1 with
  | error e =>
    rw [router.get_lost parties howner] at h
    cases h
  | ok owner =>
    refine ⟨owner, rfl, ?_⟩
    cases hheld : (during s).state.cache.find? owner with
    | some other =>
      rw [router.get_held parties howner hheld] at h ⊢
      cases h
      exact Cache.find?_of_held hheld
    | none =>
      rw [(router.get_of_build parties howner hheld).1] at h
      intro address
      rw [router.get_built parties howner hheld h, Cache.find?_insert]

/-- A step that leaves a call with a handle found it for the owner or put it there. -/
theorem work_lists {job : Job C} {key : String} {owner : Address} {entry : Entry C} {s : State W C}
    (h : (router.work parties job s : Outcome (State W C) T C A _).answer.jobs.head? =
      some (.get (.leaving key (some owner) (.ok entry)))) :
    ∀ address, (router.work parties job s : Outcome (State W C) T C A _).state.cache.find? address =
      if address = owner then some entry.client else s.cache.find? address := by
  have hw := router.worked (A := A) parties job s
  revert h hw
  generalize (router.work parties job s : Outcome (State W C) T C A _) = o
  intro h hw
  cases hw with
  | hit hheld =>
    cases h
    exact Cache.find?_of_held hheld
  | overtaken hheld =>
    cases h
    exact Cache.find?_of_held hheld
  | built hmissing hb =>
    cases h
    exact fun address => Cache.find?_insert ..
  -- What an event or a change leaves to be done is no routing call.
  | @handled batch => cases batch <;> cases h
  | @applied change =>
    simp only at h
    split at h <;> cases h
  | _ => cases h

/-- Any other step leaves the cache alone. -/
theorem work_keeps {job : Job C} {s : State W C} (hremoves : ∀ address, job ≠ .remove address)
    (hserves : ∀ key owner entry,
      (router.work parties job s : Outcome (State W C) T C A _).answer.jobs.head? ≠
        some (.get (.leaving key (some owner) (.ok entry)))) :
    (router.work parties job s : Outcome (State W C) T C A _).state.cache = s.cache := by
  have hw := router.worked (A := A) parties job s
  revert hserves hw
  generalize (router.work parties job s : Outcome (State W C) T C A _) = o
  intro hserves hw
  cases hw with
  | built => exact absurd rfl (hserves _ _ _)
  | removed => exact absurd rfl (hremoves _)
  | _ => rfl

/-- One step of a caller, as it is seen in what the router shows. The step of a removal strikes its
address off; a step that leaves a call with a handle lists its owner; any other changes nothing. -/
structure StepShown (N : Type) (listed : List Address) (job : Job C) (s : State W C)
    (o : Outcome (State W C) T C A (Thread C)) : Prop where
  strikes : ∀ address, job = .remove address → ∃ found,
    o.trace.visits = [.removed address found] ∧
      router.Strikes parties N listed address found s o.state
  lists : ∀ key owner entry,
    o.answer.jobs.head? = some (.get (.leaving key (some owner) (.ok entry))) →
      router.Lists parties N listed owner entry.client s o.state
  keeps : (∀ address, job ≠ .remove address) →
    (∀ key owner entry,
      o.answer.jobs.head? ≠ some (.get (.leaving key (some owner) (.ok entry)))) →
      o.state.cache = s.cache

theorem work_shown (job : Job C) {s : State W C} (h : s.cache.Sorted) :
    router.StepShown parties N s.cache.addresses job s
      (router.work parties job s : Outcome (State W C) T C A _) where
  strikes := by
    rintro address rfl
    obtain ⟨hvisits, hcache⟩ := router.work_erases (A := A) parties address s
    exact ⟨_, hvisits, router.strikes_of_erase parties h hcache⟩
  lists key owner entry hleaves :=
    router.lists_of_find? parties (Act.sorted_of_faithful (router.tells_work parties job) h)
      (router.work_lists parties hleaves)
  keeps hremoves hserves := router.work_keeps parties hremoves hserves

end Router

/-! ## Whole runs -/

namespace Crowd

variable (router : Router) (parties : Collaborators W T C)

/-- Stirs, and operations that run between them with all that their look-ups run on the router. -/
def runAmong : List (Stir W ⊕ Op N) → Act (Crowd W C) T C (Answer C N) Unit
  | [] => pure ()
  | .inl s :: turns => do
    stir router parties s
    runAmong turns
  | .inr op :: turns => do
    onState do
      let _ ← router.run parties op
    runAmong turns

theorem faithful_onState {action : Act (State W C) T C A Unit} (h : Router.Tells action) :
    (onState action : Act (Crowd W C) T C A Unit).Faithful (·.state.cache) :=
  fun crowd => h crowd.state

theorem faithful_runAmong (turns : List (Stir W ⊕ Op N)) :
    (runAmong router parties turns : Act (Crowd W C) T C (Answer C N) Unit).Faithful
      (·.state.cache) := by
  induction turns with
  | nil => exact Act.faithful_pure _
  | cons turn turns ih =>
    cases turn with
    | inl s => exact Act.faithful_bind (faithful_stir router parties s) fun _ => ih
    | inr op =>
      refine Act.faithful_bind (faithful_onState ?_) fun _ => ih
      exact Act.faithful_bind (router.tells_run parties op) fun _ => Act.faithful_pure ()

/-- Whatever callers do on a new router, with calls that overlap and look-ups that run programs on
it, at each moment all its views show the same addresses, sorted by bytes and none of them twice.
From then on a removal says whether its address was shown, and takes it off and no other; and a call
that succeeds shows its owner, and at most that one is new. So it is step by step too, where other
callers come in between. -/
theorem all_views_show_one_cache (world : W) (requests : List (List Request))
    (turns : List (Stir W ⊕ Op N)) :
    let s := (runAmong router parties turns (start ⟨world, .empty⟩ requests)).state.state
    ∃ listed, router.Shows parties N s listed ∧
      (∀ address,
        let o : Outcome (State W C) T C (Answer C N) _ := router.run parties (.remove address) s
        ∃ found, o.answer = .removed found ∧
          router.Strikes parties N listed address found s o.state) ∧
      (∀ key during client,
        let d : Outcome (State W C) T C (Answer C N) Unit := router.runDuring parties during s
        let o : Outcome (State W C) T C (Answer C N) _ := router.run parties (.get key during) s
        o.answer = .got (.ok client) →
        ∃ owner before, (parties.lookup key d.state.world).1 = .ok owner ∧
          router.Shows parties N d.state before ∧
          router.Lists parties N before owner client d.state o.state) ∧
      ∀ job, router.StepShown parties N listed job s
        (router.work parties job s : Outcome (State W C) T C (Answer C N) _) := by
  intro s
  have hsorted : s.cache.Sorted :=
    Act.sorted_of_faithful (faithful_runAmong router parties turns) Cache.sorted_empty
  refine ⟨s.cache.addresses, router.shows_addresses parties hsorted, ?_, ?_, ?_⟩
  · intro address o
    obtain ⟨hanswer, hcache⟩ := router.remove_erases (T := T) (A := Answer C N) address s
    exact ⟨_, congrArg Answer.removed hanswer, router.strikes_of_erase parties hsorted hcache⟩
  · intro key during client d o hgot
    have hd : d.state.cache.Sorted :=
      Act.sorted_of_faithful (router.tells_runDuring parties during) hsorted
    have ho : o.state.cache.Sorted :=
      Act.sorted_of_faithful (router.tells_run parties (.get key during)) hsorted
    obtain ⟨owner, howner, hfind⟩ := router.get_lists parties (Answer.got.inj hgot)
    exact ⟨owner, d.state.cache.addresses, howner, router.shows_addresses parties hd,
      router.lists_of_find? parties ho hfind⟩
  · exact fun job => router.work_shown parties job hsorted

/-- One caller is between its two looks, and another has got a handle and is about to remove one;
meanwhile a call ran alone whose look-up made two more, and one of their members has left. The list
goes by bytes, not by the units of UTF-16, which would put the last address before the second. -/
theorem three_addresses_in_byte_order :
    let router : Router := ⟨"svc", true⟩
    let cluster := Cluster.start "a" "svc"
      [("k", "b"), ("l", "😀"), ("m", "｡"), ("n", "Z"), ("o", "é")]
    let ticks : List (Stir Cluster ⊕ Op Empty) := [0, 1, 0, 1, 1, 1].map (.inl ∘ .tick)
    let turns := ticks ++ [.inr (.get "m" [.get "n" [], .get "o" []]),
      .inr (.handle [.changes [.new "é" .leave]])]
    let crowd : Crowd Cluster Handle := (runAmong router Cluster.parties turns
      (start ⟨cluster, .empty⟩ [[.get "k"], [.get "l", .remove "Z"]])).state
    let s := crowd.state
    let removal : Outcome (State Cluster Handle) Wire Handle (Answer Handle Empty) _ :=
      router.run Cluster.parties (.remove "｡") s
    let call : Outcome (State Cluster Handle) Wire Handle (Answer Handle Empty) _ :=
      router.run Cluster.parties (.get "k" [.get "o" []]) s
    let step (job : Job Handle) :
        Outcome (State Cluster Handle) Wire Handle (Answer Handle Empty) _ :=
      router.work Cluster.parties job s
    router.Shows Cluster.parties Empty s ["Z", "｡", "😀"] ∧
    Text.sort ["😀", "Z", "｡"] = ["Z", "｡", "😀"] ∧
    (removal.answer = .removed true ∧
      router.Shows Cluster.parties Empty removal.state ["Z", "😀"]) ∧
    (call.answer = .got (.ok (.remote "svc" "b" 1)) ∧
      call.state.cache.find? "b" = some (.remote "svc" "b" 1) ∧
      call.state.cache.addresses = ["Z", "b", "é", "｡", "😀"]) ∧
    (crowd.job? 1 = some (.remove "Z") ∧
      router.Shows Cluster.parties Empty (step (.remove "Z")).state ["｡", "😀"]) ∧
    (crowd.job? 0 = some (.get (.missed "k" "b")) ∧
      (step (.get (.missed "k" "b"))).state.cache.find? "b" = some (.remote "svc" "b" 1)) := by
  intro router cluster ticks turns crowd s removal call step
  obtain ⟨listed, hshows, hremoves, hgets, hsteps⟩ := all_views_show_one_cache router
    Cluster.parties cluster [[.get "k"], [.get "l", .remove "Z"]] turns
  have hlisted : listed = ["Z", "｡", "😀"] := hshows.eq.trans (by decide +kernel)
  obtain ⟨found, hremoved, hstrikes⟩ := hremoves "｡"
  have hfound : found = true := hstrikes.found.mpr (by rw [hlisted]; decide)
  have hleft : listed.filter (· != "｡") = ["Z", "😀"] := by rw [hlisted]; decide +kernel
  have hgot : call.answer = .got (.ok (.remote "svc" "b" 1)) := by decide +kernel
  obtain ⟨owner, before, howner, -, hlists⟩ := hgets "k" [.get "o" []] _ hgot
  have hb : owner = "b" := Except.ok.inj (howner.symm.trans (by decide +kernel))
  obtain ⟨_, -, hmember⟩ := (hsteps (.remove "Z")).strikes "Z" rfl
  have hmissed := (hsteps (.get (.missed "k" "b"))).lists "k" "b"
    (.inserted (.remote "svc" "b" 1)) (by decide +kernel)
  refine ⟨hlisted ▸ hshows, ?_, ⟨?_, hleft ▸ hstrikes.shows⟩, ⟨hgot, ?_, ?_⟩, ⟨?_, ?_⟩, ?_, ?_⟩
  · rw [← hlisted]
    apply hshows.sorted _ (by decide)
    intro address
    have hperm : ["😀", "Z", "｡"].Perm listed := by rw [hlisted]; decide
    rw [hperm.mem_iff, hshows.eq]
    exact Cache.mem_addresses_iff
  · rw [← hfound]
    exact hremoved
  · rw [hlists.find? "b", if_pos hb.symm]
  · decide +kernel
  · decide +kernel
  · have hrest : listed.filter (· != "Z") = ["｡", "😀"] := by rw [hlisted]; decide +kernel
    rw [← hrest]
    exact hmember.shows
  · decide +kernel
  · rw [hmissed.find? "b", if_pos rfl]
    rfl

end Crowd

end KeyRoute
