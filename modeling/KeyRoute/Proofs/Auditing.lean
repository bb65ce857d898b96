-- The log as an account of the cache. A router writes a line when it has built a handle and one
-- when it has dropped one, in other functions than those that change the cache and not at the same
-- moments. Where no two operations overlap, the lines and the changes still go together one by one.
-- So whoever reads nothing but the lines knows at each address what is cached there.
import Mathlib.Data.List.Infix
import KeyRoute.Proofs.Discretion
import KeyRoute.Proofs.History
import KeyRoute.Proofs.Settling

namespace KeyRoute

variable {W T C A N α β : Type}

/-! ## Reading the log -/

namespace Text

/-- What stands behind some words at the beginning of a text. -/
def after? (words text : String) : Option String :=
  (text.toList.dropPrefix? words.toList).map String.ofList

theorem after?_append (words rest : String) : after? words (words ++ rest) = some rest := by
  unfold after?
  rw [String.toList_append, List.dropPrefix?_append_of_beq _ (beq_self_eq_true _), Option.map_some,
    String.ofList_toList]

/-- A text that begins otherwise. -/
theorem after?_none {words others : String} (h : ¬ words.toList <+: others.toList)
    (h' : ¬ others.toList <+: words.toList) (rest : String) :
    after? words (others ++ rest) = none := by
  unfold after?
  rw [Option.map_eq_none_iff]
  cases hdrop : (others ++ rest).toList.dropPrefix? words.toList with
  | none => rfl
  | some left =>
    obtain ⟨start, hstart, hwords⟩ := List.dropPrefix?_eq_some_iff.mp hdrop
    rw [String.toList_append, eq_of_beq hwords] at hstart
    rcases List.prefix_or_prefix_of_prefix ⟨left, hstart.symm⟩
      (List.prefix_append others.toList rest.toList) with hw | ho
    · exact absurd hw h
    · exact absurd ho h'

end Text

/-- What a line of the log says of an address: a handle was built for it, or the one that it had is
gone. -/
inductive Mark where
  | created (address : Address)
  | evicted (address : Address)
deriving DecidableEq

namespace Mark

/-- Whether an address has a handle after a mark; `none` if the mark is about another address. -/
def leaves? (address : Address) : Mark → Option Bool
  | .created a => if a = address then some true else none
  | .evicted a => if a = address then some false else none

/-- What the message of a line says. All that follows the fixed words is the address, whatever it
consists of. -/
def ofMessage? (message : String) : Option Mark :=
  ((Text.after? "Created local client for " message).map .created).or
    (((Text.after? "Created remote client for " message).map .created).or
      ((Text.after? "Evicted cached client for " message).map .evicted))

/-- What the text of a line says. -/
def ofLine? (line : String) : Option Mark :=
  (Text.after? "INFO ringroute::core::router: " line).bind ofMessage?

end Mark

namespace Notice

/-- What a notice says of an address. -/
def mark? : Notice → Option Mark
  | .created _ address => some (.created address)
  | .evicted address => some (.evicted address)
  | _ => none

/-- The words before the message of a line. -/
def head (notice : Notice) : String := notice.level.label ++ " " ++ notice.target ++ ": "

theorem line_eq (notice : Notice) : notice.line = notice.head ++ notice.message := rfl

end Notice

namespace Mark

theorem ofLine?_router {notice : Notice} (h : notice.head = "INFO ringroute::core::router: ") :
    ofLine? notice.line = ofMessage? notice.message := by
  unfold ofLine?
  rw [notice.line_eq, h, Text.after?_append, Option.bind_some]

theorem ofLine?_other {notice : Notice}
    (h : ¬ "INFO ringroute::core::router: ".toList <+: notice.head.toList)
    (h' : ¬ notice.head.toList <+: "INFO ringroute::core::router: ".toList) :
    ofLine? notice.line = none := by
  unfold ofLine?
  rw [notice.line_eq, Text.after?_none h h', Option.bind_none]

/-- The text of a line says what the line was written for. -/
theorem ofLine?_line (notice : Notice) : ofLine? notice.line = notice.mark? := by
  cases notice with
  | created kind address =>
    rw [ofLine?_router (by rfl)]
    unfold ofMessage?
    cases kind with
    | inProcess =>
      change ((Text.after? _ ("Created local client for " ++ address)).map _).or _ = _
      rw [Text.after?_append]
      rfl
    | remote =>
      change ((Text.after? _ ("Created remote client for " ++ address)).map _).or
        (((Text.after? _ ("Created remote client for " ++ address)).map _).or _) = _
      rw [Text.after?_none (by decide +kernel) (by decide +kernel), Text.after?_append]
      rfl
  | evicted address =>
    rw [ofLine?_router (by rfl)]
    unfold ofMessage? Notice.message
    rw [Text.after?_none (by decide +kernel) (by decide +kernel),
      Text.after?_none (by decide +kernel) (by decide +kernel), Text.after?_append]
    rfl
  | routerStarted service =>
    have hmessage : (Notice.routerStarted service).message =
      "Client router started for service '" ++ (service ++ "'.") := String.append_assoc ..
    rw [ofLine?_router (by rfl), hmessage]
    unfold ofMessage?
    rw [Text.after?_none (by decide +kernel) (by decide +kernel),
      Text.after?_none (by decide +kernel) (by decide +kernel),
      Text.after?_none (by decide +kernel) (by decide +kernel)]
    rfl
  | _ =>
    apply ofLine?_other
    all_goals
      simp only [Notice.head, Notice.level, Notice.target]
      decide +kernel

end Mark

/-- A line that says something passes if lines of its level and target do. -/
theorem Filter.passes_of_mark {filter : Filter}
    (h : filter.admits Notice.routerTarget .info = true) {notice : Notice} {mark : Mark}
    (hmark : notice.mark? = some mark) : filter.passes notice = true := by
  cases notice with
  | created | evicted => exact h
  | _ => cases hmark

/-- What is read from the lines of a log is what was written, if the filter lets it pass. -/
theorem Filter.marks_seen {filter : Filter} (h : filter.admits Notice.routerTarget .info = true)
    (log : List Notice) :
    ((filter.seen log).map Notice.line).filterMap Mark.ofLine? = log.filterMap Notice.mark? := by
  unfold seen
  rw [List.filterMap_map, List.filterMap_filter]
  congr 1
  funext notice
  rw [Function.comp_apply, Mark.ofLine?_line]
  cases hmark : notice.mark? with
  | none => exact ite_self none
  | some mark => exact if_pos (passes_of_mark h hmark)

/-! ## Lines and visits -/

/-- What a visit to the cache did to an address. -/
def Visit.mark? : Visit C → Option Mark
  | .built address _ => some (.created address)
  | .removed address true => some (.evicted address)
  | _ => none

/-- The lines of an action say what its visits did, in the same order. -/
def Act.Audited {S : Type} (action : Act S T C A α) : Prop :=
  ∀ s, (action s).trace.log.filterMap Notice.mark? = (action s).trace.visits.filterMap Visit.mark?

namespace Act

variable {S : Type}

theorem audited_pure (answer : α) : (pure answer : Act S T C A α).Audited := fun _ => rfl

theorem audited_bind {first : Act S T C A α} {next : α → Act S T C A β} (h : first.Audited)
    (h' : ∀ a, (next a).Audited) : (first >>= next).Audited := by
  intro s
  simp only [bind_apply, Trace.log_append, Trace.visits_append, List.filterMap_append]
  rw [h s, h' (first s).answer (first s).state]

/-- An action that neither writes lines nor visits the cache. -/
theorem audited_quiet {action : Act S T C A α} (hlog : ∀ s, (action s).trace.log = [])
    (hvisits : ∀ s, (action s).trace.visits = []) : action.Audited := by
  intro s
  rw [hlog, hvisits]
  rfl

theorem audited_record (call : Call T A) : (record call : Act S T C A Unit).Audited := fun _ => rfl

theorem audited_look (f : S → α) : (look f : Act S T C A α).Audited := fun _ => rfl

/-- Lines that say nothing of an address. -/
theorem audited_note {notices : List Notice} (h : ∀ notice ∈ notices, notice.mark? = none) :
    (note notices : Act S T C A Unit).Audited := by
  intro s
  exact List.filterMap_eq_nil_iff.mpr h

end Act

namespace Router

variable (router : Router) (parties : Collaborators W T C)

theorem mark?_failureNotice (owner : Address) (stage : Stage) (e : RouteError) :
    (failureNotice owner stage e).mark? = none := by
  cases stage <;> rfl

theorem mark?_notices (change : Change) : ∀ notice ∈ notices change, notice.mark? = none := by
  unfold notices
  split
  · simp [Notice.mark?]
  · split <;> simp [Notice.mark?]

/-- A build tells of a handle iff it made one. -/
theorem Building.marks {owner : Address} {s : State W C}
    {o : Outcome (State W C) T C A (Except RouteError C)} (h : router.Building owner s o) :
    o.trace.log.filterMap Notice.mark? =
      match o.answer with
      | .ok _ => [.created owner]
      | .error _ => [] := by
  cases h with
  | failed stage _ => simp [mark?_failureNotice]
  | built kind => rfl

theorem audited_resolve (key : String) {during : Act (State W C) T C A Unit} (h : during.Audited) :
    (router.resolve parties key during).Audited := by
  intro s
  cases hl : (parties.lookup key (during s).state.world).1 with
  | ok owner =>
    rw [resolve_ok router parties hl]
    exact h s
  | error e =>
    rw [resolve_error router parties hl]
    simp only [Trace.log_append, Trace.visits_append, List.filterMap_append, h s]
    rfl

theorem audited_probe (owner : Address) :
    (router.probe owner : Act (State W C) T C A (Option C)).Audited := by
  intro s
  cases hc : s.cache.find? owner with
  | some client =>
    rw [probe_some router hc]
    rfl
  | none =>
    rw [probe_none router hc]
    rfl

theorem audited_leave (entry : Entry C) :
    (router.leave entry : Act (State W C) T C A C).Audited :=
  Act.audited_quiet (fun s => by rw [leave_apply]) fun s => by rw [leave_apply]

/-- The line is written before the handle is put into the cache, but under the same lock. -/
theorem audited_enter (owner : Address) :
    (router.enter parties owner : Act (State W C) T C A _).Audited := by
  intro s
  have hb := router.building (A := A) parties owner s
  have hmarks := hb.marks
  cases hc : s.cache.find? owner with
  | some client =>
    rw [enter_some router parties hc]
    rfl
  | none =>
    cases ha : (router.build parties owner s : Outcome (State W C) T C A _).answer with
    | error e =>
      rw [ha] at hmarks
      rw [enter_error router parties hc ha]
      simp only [Trace.log_append, Trace.visits_append, hb.visits, List.append_nil, hmarks]
      rfl
    | ok client =>
      rw [ha] at hmarks
      rw [enter_ok router parties hc ha]
      simp only [Trace.log_append, Trace.visits_append, hb.visits, List.append_nil, hmarks]
      rfl

theorem audited_get (key : String) {during : Act (State W C) T C A Unit} (h : during.Audited) :
    (router.get parties key during).Audited := by
  unfold get
  apply Act.audited_bind (router.audited_resolve parties key h)
  rintro (e | owner)
  · exact Act.audited_pure _
  · apply Act.audited_bind (router.audited_probe owner)
    rintro (_ | client)
    · unfold ensure
      apply Act.audited_bind (router.audited_enter parties owner)
      rintro (e | entry)
      · exact Act.audited_pure _
      · exact Act.audited_bind (router.audited_leave entry) fun _ => Act.audited_pure _
    · exact Act.audited_pure _

/-- The line is written after the lock was given back, and nothing comes in between. -/
theorem audited_remove (address : Address) :
    (router.remove address : Act (State W C) T C A Bool).Audited := by
  intro s
  cases hc : s.cache.contains address with
  | true =>
    rw [remove_there router hc]
    rfl
  | false =>
    rw [remove_absent router hc]
    rfl

theorem audited_applyBatch (batch : List Change) :
    (router.applyBatch batch : Act (State W C) T C A Unit).Audited := by
  induction batch with
  | nil => exact Act.audited_pure _
  | cons change batch ih =>
    refine Act.audited_bind ?_ fun _ => ih
    have hjudge : (judge change : Act (State W C) T C A (Option Address)).Audited := by
      intro s
      rw [judge_apply]
      exact List.filterMap_eq_nil_iff.mpr (mark?_notices change)
    apply Act.audited_bind hjudge
    rintro (_ | address)
    · exact Act.audited_pure _
    · exact Act.audited_bind (router.audited_remove address) fun _ => Act.audited_pure _

theorem audited_handle (event : Event) :
    (router.handle event : Act (State W C) T C A Unit).Audited := by
  cases event with
  | changes batch => exact router.audited_applyBatch batch
  | announcement content => exact Act.audited_note (by simp [Notice.mark?])

theorem audited_handleAll (events : List Event) :
    (router.handleAll events : Act (State W C) T C A Unit).Audited := by
  induction events with
  | nil => exact Act.audited_pure _
  | cons event events ih => exact Act.audited_bind (router.audited_handle event) fun _ => ih

mutual

theorem audited_run (op : Op N) :
    (router.run parties op : Act (State W C) T C (Answer C N) (Answer C N)).Audited := by
  cases op with
  | get key during =>
    exact Act.audited_bind (router.audited_get parties key (audited_runDuring during))
      fun _ => Act.audited_pure _
  | remove address =>
    exact Act.audited_bind (router.audited_remove address) fun _ => Act.audited_pure _
  | handle events =>
    exact Act.audited_bind (router.audited_handleAll events) fun _ => Act.audited_pure _
  | contains address => exact Act.audited_bind (Act.audited_look _) fun _ => Act.audited_pure _
  | size => exact Act.audited_bind (Act.audited_look _) fun _ => Act.audited_pure _
  | addresses => exact Act.audited_bind (Act.audited_look _) fun _ => Act.audited_pure _
  | service => exact Act.audited_pure _
  | remark content => exact Act.audited_pure _

theorem audited_runDuring (ops : List (Op N)) :
    (router.runDuring parties ops : Act (State W C) T C (Answer C N) Unit).Audited := by
  cases ops with
  | nil => exact Act.audited_pure _
  | cons op ops =>
    apply Act.audited_bind (audited_run op)
    intro answer
    exact Act.audited_bind (Act.audited_record _) fun _ => audited_runDuring ops

end

end Router

/-! ## Reading a history back -/

/-- A handle was built for some address. -/
def Mark.creates : Mark → Bool
  | .created _ => true
  | .evicted _ => false

/-- The handle of some address is gone. -/
def Mark.evicts (mark : Mark) : Bool := !mark.creates

/-- What marks say of an address, one after the other: whether it has a handle. -/
def Mark.said (address : Address) (marks : List Mark) : List Bool :=
  marks.filterMap (leaves? address)

namespace Visit

/-- Whether an address has a handle after a visit that changed that. -/
theorem leaves?_mark? (address : Address) (v : Visit C) :
    v.mark?.bind (Mark.leaves? address) =
      if v.isBuild address then some true
      else if v.isRemoval address then some false else none := by
  cases v with
  | built a client => simp [mark?, Mark.leaves?, isBuild, isRemoval]
  | removed a there => cases there <;> simp [mark?, Mark.leaves?, isBuild, isRemoval]
  | found | missed | failed => rfl

end Visit

namespace Leads

variable {first last : Cache C} {past : List (Visit C)} {address : Address}

theorem said_cons (address : Address) (v : Visit C) (past : List (Visit C)) :
    Mark.said address ((v :: past).filterMap Visit.mark?) =
      (if v.isBuild address then some true else if v.isRemoval address then some false
        else none).toList ++ Mark.said address (past.filterMap Visit.mark?) := by
  unfold Mark.said
  rw [List.filterMap_filterMap, List.filterMap_filterMap, List.filterMap_cons, v.leaves?_mark?]
  split <;> simp [*]

/-- What the changes of a cache say of an address: yes and no take turns, beginning with the other
of what was the case, and the last word is what is the case. -/
theorem said_alternates (address : Address) (h : Leads first past last) :
    let said := first.contains address :: Mark.said address (past.filterMap Visit.mark?)
    said.IsChain (· ≠ ·) ∧ said.getLast? = some (last.contains address) := by
  induction h with
  | nil cache => exact ⟨List.IsChain.singleton _, rfl⟩
  | @cons cache last v past hv _ ih =>
    simp only [said_cons]
    rcases Visit.cases_at address hv with ⟨c, rfl, h0, h1⟩ | ⟨rfl, h0, h1⟩ | ⟨hb, hr, h1, -⟩
    · simp only [Cache.contains, h0, h1] at ih ⊢
      simpa [Visit.isBuild] using ih
    · simp only [Cache.contains, h0, h1] at ih ⊢
      simpa [Visit.isBuild, Visit.isRemoval] using ih
    · simp only [Cache.contains, h1] at ih ⊢
      simpa [hb, hr] using ih

/-- The yeses are as many as the builds, and the noes as many as the removals that found
something. -/
theorem count_said (address : Address) (past : List (Visit C)) :
    let said := Mark.said address (past.filterMap Visit.mark?)
    said.count true = builds address past ∧ said.count false = removals address past := by
  unfold builds removals Mark.said
  simp only [List.filterMap_filterMap, List.count_eq_countP, List.countP_filterMap,
    Visit.leaves?_mark?]
  constructor
  · refine List.countP_congr fun v _ => ?_
    cases v.isBuild address <;> cases v.isRemoval address <;> simp
  · refine List.countP_congr fun v _ => ?_
    -- No visit is both.
    cases v with
    | built a client =>
      cases (Visit.built a client).isBuild address <;> simp [Visit.isRemoval]
    | found | missed | failed | removed => cases Visit.isRemoval address _ <;> simp [Visit.isBuild]

/-- The marks of a history tell how often a handle was put into the cache and taken out, wherever
it was. -/
theorem count_marks (past : List (Visit C)) :
    let marks := past.filterMap Visit.mark?
    marks.countP Mark.creates = past.countP Visit.fills ∧
      marks.countP Mark.evicts = past.countP Visit.empties := by
  simp only [List.countP_filterMap]
  constructor
  all_goals
    refine List.countP_congr fun v _ => ?_
    cases v with
    | removed a there => cases there <;> rfl
    | _ => rfl

end Leads

/-! ## What may happen at a router -/

/-- The lines of the listener say nothing of an address. -/
theorem Trace.marks_ownLog (trace : Trace T C A) :
    trace.ownLog.filterMap Notice.mark? = trace.log.filterMap Notice.mark? := by
  unfold ownLog
  rw [List.filterMap_filter]
  congr 1
  funext notice
  cases notice <;> rfl

namespace Station

/-- What an action leaves of a router that it does not drop: the visits lead from the cache before
it to the cache after it, and the lines say what the visits did. -/
structure Kept (station : Station W C) (o : Outcome (Station W C) T C A α) : Prop where
  live : o.state.live = station.live
  leads : Leads station.state.cache o.trace.visits o.state.state.cache
  audited : o.trace.log.filterMap Notice.mark? = o.trace.visits.filterMap Visit.mark?

theorem kept_listen (turns : List Turn) (station : Station W C) :
    Kept station (listen turns station : Outcome (Station W C) T C A Unit) := by
  obtain ⟨hstate, hwork⟩ := listen_handles (T := T) (A := A) turns station
  have htells := station.router.tells_handleAll (T := T) (A := A) (station.heard turns)
    station.state
  have haudited := station.router.audited_handleAll (T := T) (A := A) (station.heard turns)
    station.state
  constructor
  · rw [hstate]
    cases hlive : station.live with
    | true => exact (Listener.work_takes hlive turns).2
    | false => exact (Listener.work_unheard hlive turns).2
  · rw [hstate, hwork.visits]
    exact htells
  · rw [hwork.visits, ← haudited, ← Trace.marks_ownLog, hwork.ownLog, Trace.marks_ownLog]

variable (parties : Collaborators W T C)

theorem kept_quiet {station : Station W C} {o : Outcome (Station W C) T C A α}
    (hlive : o.state.live = station.live) (hcache : o.state.state.cache = station.state.cache)
    (htrace : o.trace = .empty) : Kept station o := by
  refine ⟨hlive, ?_, ?_⟩
  · rw [hcache, htrace]
    exact .nil _
  · rw [htrace]
    rfl

theorem kept_channel {d : Deed W N} (station : Station W C)
    (h : (∃ event, d = .send event) ∨ d = .close ∨ d = .signal) :
    Kept station (act parties d station) := by
  obtain ⟨l, hstate, hlive, htrace⟩ := act_channel parties station h
  refine kept_quiet ?_ (by rw [hstate]) htrace
  rw [hstate]
  exact hlive

theorem kept_act {d : Deed W N} (hd : d ≠ .drop) (station : Station W C) :
    Kept station (act parties d station) := by
  cases d with
  | operate op =>
    cases hlive : station.live with
    | true =>
      rw [act_operate parties hlive]
      exact ⟨rfl, station.router.tells_run parties op station.state,
        station.router.audited_run parties op station.state⟩
    | false =>
      rw [act_operate_gone parties hlive]
      exact kept_quiet rfl rfl rfl
  | drift world => exact kept_quiet rfl rfl rfl
  | listen turns =>
    rw [act_listen]
    obtain ⟨hlive, hleads, haudited⟩ := kept_listen (T := T) (A := Answer C N) turns station
    exact ⟨hlive, hleads, haudited⟩
  | drop => exact absurd rfl hd
  | send event => exact kept_channel parties station (.inl ⟨event, rfl⟩)
  | close => exact kept_channel parties station (.inr (.inl rfl))
  | signal => exact kept_channel parties station (.inr (.inr rfl))

end Station

namespace Site

variable {n : Nat}

/-- The visits of a run to the cache of its router. -/
def visits (reports : List (Report T C N)) : List (Visit C) := reports.flatMap (·.trace.visits)

/-- A run of deeds at a router that none of them drops. -/
theorem run_kept {deeds : List (Station.Deed W N)} (hdrop : Station.Deed.drop ∉ deeds)
    {site : Site W T C} {branch : Branch W T C} (hbranch : site n = some branch)
    (hlive : branch.station.live = true) :
    let o := site.run (deeds.map fun d => (n, .deed d))
    ∃ cache, o.1.cache? n = some cache ∧
      Leads branch.station.state.cache (visits o.2) cache ∧
      (logged o.2).filterMap Notice.mark? = (visits o.2).filterMap Visit.mark? := by
  induction deeds generalizing site branch with
  | nil =>
    refine ⟨branch.station.state.cache, ?_, .nil _, rfl⟩
    simp [run, cache?, hbranch, hlive]
  | cons d deeds ih =>
    rw [List.mem_cons, not_or] at hdrop
    have hkept := Station.kept_act branch.parties (Ne.symm hdrop.1) branch.station
    have hput : (step site n (.deed d)).1 n = some { branch with
        station := (Station.act branch.parties d branch.station).state } := by
      simp [step, act, hbranch, put]
    have htrace : (step site n (.deed d)).2.trace =
        (Station.act branch.parties d branch.station).trace := by
      simp [step, act, hbranch]
    obtain ⟨cache, hcache, hleads, haudited⟩ := ih hdrop.2 hput (hkept.live.trans hlive)
    refine ⟨cache, hcache, ?_, ?_⟩
    · simp only [List.map_cons, run, visits, List.flatMap_cons, htrace]
      exact hkept.leads.append hleads
    · simp only [List.map_cons, run, visits, logged, List.flatMap_cons, htrace,
        List.filterMap_append, hkept.audited]
      exact congrArg _ haudited

/-- A run from the start of a router on: it begins with an empty cache. -/
theorem run_found (parties : Collaborators W T C) (config : Config) (world : W) (capacity : Nat)
    {deeds : List (Station.Deed W N)} (hdrop : Station.Deed.drop ∉ deeds) :
    let o := (empty : Site W T C).run
      ((n, .found parties config world capacity) :: deeds.map fun d => (n, .deed d))
    ∃ cache, o.1.cache? n = some cache ∧ Leads .empty (visits o.2) cache ∧
      (logged o.2).filterMap Notice.mark? = (visits o.2).filterMap Visit.mark? :=
  let branch : Branch W T C :=
    ⟨parties, (Station.start (A := Answer C N) parties config world capacity).1⟩
  have hbranch : (empty : Site W T C).put n branch n = some branch := if_pos rfl
  run_kept hdrop hbranch rfl

/-- The log is an account of the cache. The lines of a router, read in their order from its start on,
tell at each address of handles that come and go by turns, the first of them coming, and so of what
is cached in the end. There is a line for each time that a handle was put into the cache or taken
out, and no other line is taken for one. -/
theorem the_log_tells_what_is_cached (n : Nat) (parties : Collaborators W T C) (config : Config)
    (world : W) (capacity : Nat) {deeds : List (Station.Deed W N)}
    (hdrop : Station.Deed.drop ∉ deeds)
    {filter : Filter} (hfilter : filter.admits Notice.routerTarget .info = true) :
    let turns := (n, .found parties config world capacity) :: deeds.map fun d => (n, .deed d)
    let marks := ((logged (watch filter turns)).map Notice.line).filterMap Mark.ofLine?
    let o := (empty : Site W T C).run turns
    ∃ cache, o.1.cache? n = some cache ∧ Leads .empty (visits o.2) cache ∧
      (∀ address,
        (Mark.said address marks).IsChain (· ≠ ·) ∧
        (Mark.said address marks).head? ≠ some false ∧
        (address ∈ cache.addresses ↔ (Mark.said address marks).getLast? = some true) ∧
        (Mark.said address marks).count true = Leads.builds address (visits o.2) ∧
        (Mark.said address marks).count false = Leads.removals address (visits o.2)) ∧
      marks.countP Mark.creates = (visits o.2).countP Visit.fills ∧
      marks.countP Mark.evicts = (visits o.2).countP Visit.empties ∧
      cache.size + marks.countP Mark.evicts = marks.countP Mark.creates := by
  intro turns marks o
  obtain ⟨cache, hcache, hleads, haudited⟩ := run_found (n := n) parties config world capacity hdrop
  have hmarks : marks = (visits o.2).filterMap Visit.mark? := by
    have hseen := Filter.marks_seen hfilter (logged o.2)
    simp only [marks, watch, logged_under]
    exact hseen.trans haudited
  have hsize := (hleads.size Cache.sorted_empty).2
  obtain ⟨hfills, hempties⟩ := Leads.count_marks (visits o.2)
  rw [← hmarks] at hfills hempties
  refine ⟨cache, hcache, hleads, ?_, hfills, hempties, ?_⟩
  · intro address
    obtain ⟨hchain, hlast⟩ := hleads.said_alternates address
    obtain ⟨hyes, hno⟩ := Leads.count_said address (visits o.2)
    rw [← hmarks] at hchain hlast hyes hno
    rw [Cache.mem_addresses_iff]
    generalize Mark.said address marks = said at hchain hlast hyes hno
    cases said with
    | nil =>
      have hnone : false = cache.contains address := Option.some.inj hlast
      exact ⟨.nil, nofun, by simp [← hnone], hyes, hno⟩
    | cons word said =>
      obtain ⟨hfirst, hrest⟩ := List.isChain_cons_cons.mp hchain
      rw [List.getLast?_cons_cons] at hlast
      refine ⟨hrest, ?_, by rw [hlast, Option.some.injEq], hyes, hno⟩
      rw [List.head?_cons, Ne, Option.some.injEq]
      exact Ne.symm hfirst
  · rw [hfills, hempties, hsize]
    exact Nat.zero_add _

/-- A handle is built for an address that is itself like a line of the log, while the owner of
another key is looked up. An event takes it away, and it is built again. Nothing is counted, but the
lines are all there. -/
theorem an_address_that_looks_like_a_line :
    let odd : Address := "b\nINFO ringroute::core::router: Evicted cached client for b"
    let deeds : List (Station.Deed Cluster Empty) := [.operate (.get "k" [.get "l" []]),
      .send (.changes [.new odd .faulty]), .listen [.start, .receive], .operate (.remove odd),
      .operate (.get "l" [])]
    let turns : List (Nat × Turn Cluster Wire Handle Empty) :=
      (0, .found Cluster.parties ⟨none, false, "info"⟩
        (Cluster.start "a" "svc" [("k", "a"), ("l", odd)]) 1) :: deeds.map fun d => (0, .deed d)
    let filter : Filter := ⟨[⟨none, none, none, .info⟩]⟩
    let marks := ((logged (watch filter turns)).map Notice.line).filterMap Mark.ofLine?
    Station.Deed.drop ∉ deeds ∧ filter.admits Notice.routerTarget .info = true ∧
      Mark.said odd marks = [true, false, true] ∧
      ∃ cache, ((empty : Site Cluster Wire Handle).run turns).1.cache? 0 = some cache ∧
        odd ∈ cache.addresses := by
  intro odd deeds turns filter marks
  have hdrop : Station.Deed.drop ∉ deeds := by simp [deeds]
  have hfilter : filter.admits Notice.routerTarget .info = true := by decide +kernel
  have hmarks : marks =
      (logged ((empty : Site Cluster Wire Handle).run turns).2).filterMap Notice.mark? := by
    simp only [marks, watch, logged_under]
    exact Filter.marks_seen hfilter _
  have hsaid : Mark.said odd marks = [true, false, true] := by
    rw [hmarks]
    decide +kernel
  obtain ⟨cache, hcache, -, htold, -⟩ := the_log_tells_what_is_cached 0 Cluster.parties
    ⟨none, false, "info"⟩ (Cluster.start "a" "svc" [("k", "a"), ("l", odd)]) 1 hdrop hfilter
  refine ⟨hdrop, hfilter, hsaid, cache, hcache, (htold odd).2.2.1.mpr ?_⟩
  exact congrArg List.getLast? hsaid

end Site

end KeyRoute
