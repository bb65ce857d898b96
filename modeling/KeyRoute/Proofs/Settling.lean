-- Events that come through the channel do what they would do if they were handed over by a call.
-- What a listener handles of the events that wait is a first part of them, in order, and all of
-- them once it has nothing left to do; and to handle them one by one is to handle them at once.
import KeyRoute.Proofs.Listening
import KeyRoute.Proofs.Steps
import KeyRoute.Router.Site
import KeyRoute.Simulation.Cluster

namespace KeyRoute

theorem Emission.events_cons (emission : Emission) (emissions : List Emission) :
    Emission.events (emission :: emissions) =
      Emission.events [emission] ++ Emission.events emissions :=
  List.filterMap_append (l := [emission]) ..

/-! ## The listener -/

namespace Listener

/-- There is somebody to handle what waits, nobody has told the task to stop, and if it has ended,
then with nothing left. -/
structure Heeds (l : Listener) : Prop where
  handler : l.handlerAlive = true
  untold : l.told = false
  drained : l.hasEnded = true → l.waiting = []

/-- What a step takes out of the channel is handled, if there is a handler. -/
theorem Turned.takes {l l' : Listener} {emission : Emission} (h : l.Turned l' emission)
    (halive : l.handlerAlive = true) :
    l.waiting = Emission.events [emission] ++ l'.waiting ∧ l'.handlerAlive = true := by
  cases h with
  | started | closed | stopped => exact ⟨rfl, halive⟩
  | handled htask hwaiting => exact ⟨hwaiting, halive⟩
  | orphaned htask hwaiting hgone =>
    rw [halive] at hgone
    cases hgone

/-- Nothing is handled once the handler is gone. -/
theorem Turned.unheard {l l' : Listener} {emission : Emission} (h : l.Turned l' emission)
    (hgone : l.handlerAlive = false) :
    Emission.events [emission] = [] ∧ l'.handlerAlive = false := by
  cases h with
  | started | closed | stopped | orphaned => exact ⟨rfl, hgone⟩
  | handled htask hwaiting halive =>
    rw [hgone] at halive
    cases halive

theorem Turned.heeds {l l' : Listener} {emission : Emission} (h : l.Turned l' emission)
    (hl : l.Heeds) : l'.Heeds := by
  obtain ⟨handler, untold, -⟩ := hl
  have hlives := h.not_ended
  cases h with
  | started => exact ⟨handler, untold, by simp [hasEnded]⟩
  | handled htask => exact ⟨handler, untold, by simp [hasEnded, htask]⟩
  | orphaned htask hwaiting hgone =>
    rw [handler] at hgone
    cases hgone
  | closed htask hwaiting => exact ⟨handler, untold, fun _ => hwaiting⟩
  | stopped htask htold =>
    rw [untold] at htold
    cases htold

theorem work_takes {l : Listener} (halive : l.handlerAlive = true) (turns : List Turn) :
    l.waiting = Emission.events (l.work turns).2 ++ (l.work turns).1.waiting ∧
      (l.work turns).1.handlerAlive = true := by
  induction turns generalizing l with
  | nil => exact ⟨rfl, halive⟩
  | cons t turns ih =>
    simp only [work]
    cases hturn : l.turn t with
    | none => exact ih halive
    | some next =>
      obtain ⟨l', emission⟩ := next
      obtain ⟨hwaiting, halive'⟩ := (turned hturn).takes halive
      obtain ⟨hrest, hlast⟩ := ih halive'
      refine ⟨?_, hlast⟩
      rw [hwaiting, Emission.events_cons emission (l'.work turns).2, List.append_assoc, ← hrest]

theorem work_unheard {l : Listener} (hgone : l.handlerAlive = false) (turns : List Turn) :
    Emission.events (l.work turns).2 = [] ∧ (l.work turns).1.handlerAlive = false := by
  induction turns generalizing l with
  | nil => exact ⟨rfl, hgone⟩
  | cons t turns ih =>
    simp only [work]
    cases hturn : l.turn t with
    | none => exact ih hgone
    | some next =>
      obtain ⟨l', emission⟩ := next
      obtain ⟨hnone, hgone'⟩ := (turned hturn).unheard hgone
      obtain ⟨hrest, hlast⟩ := ih hgone'
      refine ⟨?_, hlast⟩
      rw [Emission.events_cons emission (l'.work turns).2, hnone, hrest, List.append_nil]

theorem heeds_work {l : Listener} (h : l.Heeds) (turns : List Turn) :
    (l.work turns).1.Heeds := by
  induction turns generalizing l with
  | nil => exact h
  | cons t turns ih =>
    simp only [work]
    cases hturn : l.turn t with
    | none => exact ih h
    | some next => exact ih ((turned hturn).heeds h)

theorem heeds_send {l : Listener} (h : l.Heeds) (event : Event) : (l.send event).1.Heeds := by
  rcases l.send_cases event with ⟨-, hlives, -, hl⟩ | ⟨-, hl⟩
  · rw [hl]
    refine ⟨h.handler, h.untold, fun hended => ?_⟩
    rw [show l.hasEnded = true from hended] at hlives
    cases hlives
  · rw [hl]
    exact h

/-- A task that heeds what waits and can take no step has handled all of it. -/
theorem Heeds.drained_of_quiet {l : Listener} (h : l.Heeds) (hquiet : l.Quiet) :
    l.waiting = [] := by
  cases hended : l.hasEnded with
  | true => exact h.drained hended
  | false => exact (hquiet.nothing_left hended).2.1

/-! ### Until it waits -/

/-- How many steps a task can take at most. -/
def reach (l : Listener) : Nat :=
  match l.task with
  | .spawned => l.waiting.length + 2
  | .running => l.waiting.length + 1
  | .ended _ => 0

theorem Turned.reach_lt {l l' : Listener} {emission : Emission} (h : l.Turned l' emission) :
    l'.reach < l.reach := by
  cases h with
  | started htask => simp [reach, htask]
  | handled htask hwaiting | orphaned htask hwaiting => simp [reach, htask, hwaiting]
  | closed htask | stopped htask => simp [reach, htask]

/-- The first possible step is a step; if there is none, the task waits or has ended. -/
theorem next_cases (l : Listener) :
    (l.next = none ∧ l.Quiet) ∨ ∃ t next, l.turn t = some next ∧ l.next = some next := by
  unfold next
  cases hstart : l.turn .start with
  | some next => exact .inr ⟨.start, next, hstart, rfl⟩
  | none =>
    cases hreceive : l.turn .receive with
    | some next => exact .inr ⟨.receive, next, hreceive, rfl⟩
    | none =>
      cases hstop : l.turn .stop with
      | some next => exact .inr ⟨.stop, next, hstop, rfl⟩
      | none =>
        refine .inl ⟨rfl, fun t => ?_⟩
        cases t with
        | start => exact hstart
        | receive => exact hreceive
        | stop => exact hstop

theorem next_eq_none_iff {l : Listener} : l.next = none ↔ l.Quiet := by
  rcases l.next_cases with ⟨hnone, hquiet⟩ | ⟨t, next, hturn, hnext⟩
  · exact iff_of_true hnone hquiet
  · rw [hnext]
    refine iff_of_false (by simp) fun hquiet => ?_
    rw [hquiet t] at hturn
    cases hturn

instance (l : Listener) : Decidable l.Quiet := decidable_of_iff (l.next = none) next_eq_none_iff

theorem work_steps (n : Nat) (l : Listener) (hn : l.reach ≤ n) :
    ∃ turns, steps n l = l.work turns ∧ (l.work turns).1.Quiet := by
  induction n generalizing l with
  | zero =>
    refine ⟨[], rfl, fun t => ?_⟩
    cases hturn : l.turn t with
    | none => exact hturn
    | some next =>
      have hless := (turned hturn).reach_lt
      omega
  | succ n ih =>
    simp only [steps]
    rcases l.next_cases with ⟨hnone, hquiet⟩ | ⟨t, ⟨l', emission⟩, hturn, hnext⟩
    · rw [hnone]
      exact ⟨[], rfl, hquiet⟩
    · have hless := (turned hturn).reach_lt
      obtain ⟨turns, hsteps, hquiet⟩ := ih l' (by omega)
      refine ⟨t :: turns, ?_, ?_⟩
      · simp only [hnext, hsteps, work, hturn]
      · simpa only [work, hturn] using hquiet

/-- To settle is to take steps until none is possible. -/
theorem settle_works (l : Listener) :
    ∃ turns, l.settle = l.work turns ∧ (l.work turns).1.Quiet := by
  apply work_steps
  unfold reach
  split <;> omega

end Listener

variable {W T C A N : Type}

/-! ## What a router does with an event -/

theorem Trace.ownLog_append (a b : Trace T C A) : (a ++ b).ownLog = a.ownLog ++ b.ownLog :=
  List.filter_append ..

/-- The router asks nobody, and all the lines are its own. -/
structure Trace.Inward (trace : Trace T C A) : Prop where
  calls : trace.calls = []
  log : trace.ownLog = trace.log

theorem Trace.Inward.append {a b : Trace T C A} (ha : a.Inward) (hb : b.Inward) :
    (a ++ b).Inward where
  calls := by rw [calls_append, ha.calls, hb.calls, List.append_nil]
  log := by rw [ownLog_append, ha.log, hb.log, log_append]

namespace Router

variable (router : Router)

theorem inward_remove (address : Address) (s : State W C) :
    (router.remove address s : Outcome (State W C) T C A Bool).trace.Inward := by
  cases hc : s.cache.contains address with
  | true =>
    rw [remove_there router hc]
    exact ⟨rfl, rfl⟩
  | false =>
    rw [remove_absent router hc]
    exact ⟨rfl, rfl⟩

theorem inward_applyChange (change : Change) (s : State W C) :
    (router.applyChange change s : Outcome (State W C) T C A Unit).trace.Inward := by
  have hnotices : (⟨[], notices change, [], []⟩ : Trace T C A).Inward := by
    refine ⟨rfl, ?_⟩
    unfold notices
    split
    · rfl
    · split <;> rfl
  unfold applyChange
  simp only [Act.bind_apply, judge_apply]
  cases change.evicts with
  | true =>
    refine hnotices.append ?_
    simp only [if_true, Act.bind_apply, Act.pure_apply, Trace.append_empty]
    exact router.inward_remove change.address s
  | false => exact hnotices.append ⟨rfl, rfl⟩

theorem inward_applyBatch (batch : List Change) (s : State W C) :
    (router.applyBatch batch s : Outcome (State W C) T C A Unit).trace.Inward := by
  induction batch generalizing s with
  | nil => exact ⟨rfl, rfl⟩
  | cons change batch ih => exact (router.inward_applyChange change s).append (ih _)

theorem inward_handleAll (events : List Event) (s : State W C) :
    (router.handleAll events s : Outcome (State W C) T C A Unit).trace.Inward := by
  induction events generalizing s with
  | nil => exact ⟨rfl, rfl⟩
  | cons event events ih =>
    refine Trace.Inward.append ?_ (ih _)
    cases event with
    | changes batch => exact router.inward_applyBatch batch s
    | announcement content => exact ⟨rfl, rfl⟩

theorem handleAll_append (events more : List Event) (s : State W C) :
    (router.handleAll (events ++ more) s : Outcome (State W C) T C A Unit) =
      let a : Outcome (State W C) T C A Unit := router.handleAll events s
      let b : Outcome (State W C) T C A Unit := router.handleAll more a.state
      ⟨(), b.state, a.trace ++ b.trace⟩ := by
  induction events generalizing s with
  | nil => rfl
  | cons event events ih =>
    simp only [List.cons_append, handleAll, Act.bind_apply, ih, Trace.append_assoc]

end Router

/-! ## What a listener does with an event -/

/-- The traces tell the same of a router: what it did, and what it wrote itself. -/
structure Trace.SameWork (a b : Trace T C A) : Prop where
  calls : a.calls = b.calls
  ownLog : a.ownLog = b.ownLog
  moves : a.moves = b.moves
  visits : a.visits = b.visits

namespace Trace.SameWork

variable {a b c d : Trace T C A}

theorem refl (a : Trace T C A) : a.SameWork a := ⟨rfl, rfl, rfl, rfl⟩

theorem append (h : a.SameWork b) (h' : c.SameWork d) : (a ++ c).SameWork (b ++ d) where
  calls := by rw [calls_append, calls_append, h.calls, h'.calls]
  ownLog := by rw [ownLog_append, ownLog_append, h.ownLog, h'.ownLog]
  moves := by rw [moves_append, moves_append, h.moves, h'.moves]
  visits := by rw [visits_append, visits_append, h.visits, h'.visits]

end Trace.SameWork

namespace Station

/-- What a listener does comes to the same as the calls that hand over the events; only its own
lines are not the router's. -/
theorem follow_handles (emission : Emission) (station : Station W C) :
    let o : Outcome (Station W C) T C A Unit := follow emission station
    let d : Outcome (State W C) T C A Unit :=
      station.router.handleAll (Emission.events [emission]) station.state
    o.state = { station with state := d.state } ∧ o.trace.SameWork d.trace := by
  cases emission with
  | started => exact ⟨rfl, rfl, rfl, rfl, rfl⟩
  | handled event =>
    refine ⟨rfl, ?_⟩
    simp only [follow, onState, Emission.events, List.filterMap_cons, List.filterMap_nil,
      Router.handleAll, Act.bind_apply, Act.pure_apply, Trace.append_empty]
    exact .refl _
  | exited cause => cases cause <;> exact ⟨rfl, rfl, rfl, rfl, rfl⟩

theorem followAll_handles (emissions : List Emission) (station : Station W C) :
    let o : Outcome (Station W C) T C A Unit := followAll emissions station
    let d : Outcome (State W C) T C A Unit :=
      station.router.handleAll (Emission.events emissions) station.state
    o.state = { station with state := d.state } ∧ o.trace.SameWork d.trace := by
  induction emissions generalizing station with
  | nil => exact ⟨rfl, .refl _⟩
  | cons emission emissions ih =>
    obtain ⟨hstate, htrace⟩ := follow_handles (T := T) (A := A) emission station
    obtain ⟨hlast, hrest⟩ :=
      ih (follow emission station : Outcome (Station W C) T C A Unit).state
    rw [Emission.events_cons]
    simp only [followAll, Act.bind_apply, Router.handleAll_append]
    rw [hstate] at hlast hrest ⊢
    exact ⟨hlast, htrace.append hrest⟩

/-- To let the listener take some steps is to hand over what it handles. -/
theorem listen_handles (turns : List Turn) (station : Station W C) :
    let o : Outcome (Station W C) T C A Unit := listen turns station
    let d : Outcome (State W C) T C A Unit :=
      station.router.handleAll (station.heard turns) station.state
    o.state = { station with state := d.state, listener := (station.listener.work turns).1 } ∧
      o.trace.SameWork d.trace := by
  unfold listen
  simp only [Act.bind_apply, onListener, Trace.empty_append]
  exact followAll_handles (T := T) (A := A) _ _

theorem heeds_of_listening {station : Station W C} (h : station.listening = true) :
    station.listener.Heeds := by
  simp only [listening, Bool.and_eq_true, Bool.not_eq_true'] at h
  refine ⟨h.1.1, h.2, fun hended => ?_⟩
  rw [h.1.2] at hended
  cases hended

/-- What came of events that were put on the channel while the listener took steps: some were
handled, the first ones first, and the others wait. -/
structure Fed (station : Station W C) (o : Outcome (Station W C) T C A (List Event))
    (handled : List Event) : Prop where
  taken : station.listener.waiting ++ o.answer = handled ++ o.state.listener.waiting
  state : o.state.state =
    (station.router.handleAll handled station.state : Outcome (State W C) T C A Unit).state
  trace : o.trace.SameWork (station.router.handleAll handled station.state).trace
  heeds : o.state.listener.Heeds

theorem fed (mix : List (Event ⊕ List Turn)) (station : Station W C)
    (h : station.listener.Heeds) :
    ∃ handled, Fed station (feed mix station : Outcome (Station W C) T C A _) handled := by
  induction mix generalizing station with
  | nil => exact ⟨[], by simp [feed, Act.pure_apply], rfl, .refl _, h⟩
  | cons first more ih =>
    cases first with
    | inl event =>
      obtain ⟨handled, htaken, hstate, htrace, hheeds⟩ :=
        ih { station with listener := (station.listener.send event).1 }
          (Listener.heeds_send h event)
      simp only [feed, Act.bind_apply, onListener, Act.pure_apply, Trace.empty_append,
        Trace.append_empty]
      refine ⟨handled, ?_, hstate, htrace, hheeds⟩
      rcases station.listener.send_cases event with ⟨hsent, -, -, hl⟩ | ⟨hrefused, hl⟩
      · simpa [hsent, hl] using htaken
      · simpa [hrefused, hl] using htaken
    | inr turns =>
      obtain ⟨hstate, htrace⟩ := listen_handles (T := T) (A := A) turns station
      obtain ⟨hwaiting, -⟩ := Listener.work_takes h.handler turns
      simp only [feed, Act.bind_apply]
      rw [hstate]
      obtain ⟨handled, htaken, hlast, hrest, hheeds⟩ :=
        ih { station with
            state := (station.router.handleAll (station.heard turns) station.state :
              Outcome (State W C) T C A Unit).state
            listener := (station.listener.work turns).1 }
          (Listener.heeds_work h turns)
      refine ⟨station.heard turns ++ handled, ?_, ?_, ?_, hheeds⟩
      · rw [hwaiting, List.append_assoc, htaken, List.append_assoc]
        rfl
      · rw [Router.handleAll_append]
        exact hlast
      · rw [Router.handleAll_append]
        exact htrace.append hrest

theorem ifLive_live {action : Act (Station W C) T C A (Reply C N)} {station : Station W C}
    (h : station.live = true) : ifLive action station = action station := by
  unfold ifLive
  simp only [Act.bind_apply, Act.look_apply, h, if_true, Trace.empty_append]

theorem ifLive_gone {action : Act (Station W C) T C A (Reply C N)} {station : Station W C}
    (h : station.live = false) : ifLive action station = ⟨.refused, station, .empty⟩ := by
  unfold ifLive
  simp only [Act.bind_apply, Act.look_apply, h, Bool.false_eq_true, if_false, Act.pure_apply,
    Trace.append_empty]

section

variable (parties : Collaborators W T C)

theorem act_operate {op : Op N} {station : Station W C} (h : station.live = true) :
    act parties (.operate op) station =
      let o := station.router.run parties op station.state
      ⟨.answer o.answer, { station with state := o.state }, o.trace⟩ := by
  simp only [act, ifLive_live h, Act.bind_apply, onState, Act.pure_apply, Trace.append_empty]

theorem act_operate_gone {op : Op N} {station : Station W C} (h : station.live = false) :
    act parties (.operate op) station = ⟨.refused, station, .empty⟩ := by
  unfold act
  exact ifLive_gone h

/-- A call that hands over events; without events it does not matter whether the router is there. -/
theorem act_handle {events : List Event} {station : Station W C}
    (h : station.live = true ∨ events = []) :
    let o := act parties (.operate (.handle events) : Deed W N) station
    let d : Outcome (State W C) T C (Answer C N) Unit :=
      station.router.handleAll events station.state
    o.state = { station with state := d.state } ∧ o.trace = d.trace := by
  cases hlive : station.live with
  | true =>
    rw [act_operate parties hlive]
    simp only [Router.run, Act.bind_apply, Act.pure_apply, Trace.append_empty, and_self]
  | false =>
    rw [act_operate_gone parties hlive]
    have hnone : events = [] := h.resolve_left (by simp [hlive])
    subst hnone
    exact ⟨rfl, rfl⟩

/-- What is done to the channel or to the listener is not seen by a call. -/
theorem act_channel {d : Deed W N} (station : Station W C)
    (h : (∃ event, d = .send event) ∨ d = .close ∨ d = .signal) :
    ∃ l, (act parties d station).state = { station with listener := l } ∧
      l.handlerAlive = station.live ∧ (act parties d station).trace = .empty := by
  rcases h with ⟨event, rfl⟩ | rfl | rfl
  · refine ⟨(station.listener.send event).1, rfl, ?_, rfl⟩
    rcases station.listener.send_cases event with ⟨-, -, -, hl⟩ | ⟨-, hl⟩ <;> rw [hl] <;> rfl
  · exact ⟨station.listener.dropSender, rfl, rfl, rfl⟩
  · simp only [act]
    cases hlive : station.live with
    | true =>
      rw [ifLive_live hlive]
      refine ⟨station.listener.signal.1, rfl, ?_, rfl⟩
      rw [← hlive]
      rcases station.listener.signal_cases with ⟨hl, -⟩ | ⟨hl, -⟩ <;> rw [hl] <;> rfl
    | false =>
      rw [ifLive_gone hlive]
      exact ⟨station.listener, rfl, hlive, rfl⟩

theorem act_listen (turns : List Turn) (station : Station W C) :
    act parties (.listen turns : Deed W N) station =
      let o : Outcome (Station W C) T C (Answer C N) Unit := listen turns station
      ⟨.nothing, o.state, o.trace⟩ := by
  simp only [act, Act.bind_apply, Act.pure_apply, Trace.append_empty]

/-- Two stations look the same to a call: it cannot see what the listener is at. -/
structure SameView (a b : Station W C) : Prop where
  router : a.router = b.router
  state : a.state = b.state
  live : a.live = b.live

theorem act_directly_channel {a b : Station W C} (h : a.SameView b) {d : Deed W N}
    (hd : (∃ event, d = .send event) ∨ d = .close ∨ d = .signal) :
    let o := act parties d a
    let o' := act parties (a.directly d) b
    o.state.SameView o'.state ∧ o.trace.SameWork o'.trace := by
  have hdirectly : a.directly d = .operate (.handle []) := by
    rcases hd with ⟨event, rfl⟩ | rfl | rfl <;> rfl
  obtain ⟨l, hacted, hl, hnone⟩ := act_channel parties a hd
  have hcall : b.live = true ∨ ([] : List Event) = [] := .inr rfl
  obtain ⟨hcalled, htrace⟩ := act_handle (N := N) parties hcall
  simp only [hdirectly, hacted, hcalled, hnone, htrace]
  exact ⟨⟨h.router, h.state, hl.trans h.live⟩, .refl _⟩

theorem act_directly {a b : Station W C} (h : a.SameView b) (d : Deed W N) :
    let o := act parties d a
    let o' := act parties (a.directly d) b
    o.state.SameView o'.state ∧ o.trace.SameWork o'.trace := by
  obtain ⟨hrouter, hstate, hlive⟩ := h
  cases d with
  | operate op =>
    simp only [directly]
    cases ha : a.live with
    | true =>
      rw [act_operate parties ha, act_operate parties (hlive.symm.trans ha), ← hrouter, ← hstate]
      exact ⟨⟨rfl, rfl, hlive⟩, .refl _⟩
    | false =>
      rw [act_operate_gone parties ha, act_operate_gone parties (hlive.symm.trans ha)]
      exact ⟨⟨hrouter, hstate, hlive⟩, .refl _⟩
  | drift world =>
    simp only [directly, act, Act.bind_apply, onState, Act.change_apply, Act.pure_apply, hstate]
    exact ⟨⟨hrouter, rfl, hlive⟩, .refl _⟩
  | drop =>
    simp only [directly, act]
    cases ha : a.live with
    | true =>
      rw [ifLive_live ha, ifLive_live (hlive.symm.trans ha)]
      simp only [drop, Act.bind_apply, onState, onListener, Act.pure_apply, hstate, hrouter]
      exact ⟨⟨rfl, rfl, rfl⟩, .refl _⟩
    | false =>
      rw [ifLive_gone ha, ifLive_gone (hlive.symm.trans ha)]
      exact ⟨⟨hrouter, hstate, hlive⟩, .refl _⟩
  | listen turns =>
    simp only [directly, act_listen]
    obtain ⟨hlistened, hwork⟩ := listen_handles (T := T) (A := Answer C N) turns a
    have hheard : b.live = true ∨ a.heard turns = [] := by
      cases hb : b.live with
      | true => exact .inl rfl
      | false => exact .inr (Listener.work_unheard (hlive.trans hb) turns).1
    obtain ⟨hcalled, htrace⟩ := act_handle (N := N) parties hheard
    have hstays : (a.listener.work turns).1.handlerAlive = a.live := by
      cases ha : a.live with
      | true => exact (Listener.work_takes ha turns).2
      | false => exact (Listener.work_unheard ha turns).2
    rw [hlistened, hcalled, htrace, ← hrouter, ← hstate]
    exact ⟨⟨rfl, rfl, hstays.trans hlive⟩, hwork⟩
  | send event => exact act_directly_channel parties ⟨hrouter, hstate, hlive⟩ (.inl ⟨event, rfl⟩)
  | close => exact act_directly_channel parties ⟨hrouter, hstate, hlive⟩ (.inr (.inl rfl))
  | signal => exact act_directly_channel parties ⟨hrouter, hstate, hlive⟩ (.inr (.inr rfl))

end

end Station

/-! ## Sites -/

namespace Site

/-- In each place there is a router at both sites or at neither, and two in one place
correspond. -/
def Paired (R : Branch W T C → Branch W T C → Prop) (a b : Site W T C) : Prop :=
  ∀ n, (a n = none ∧ b n = none) ∨ ∃ x y, a n = some x ∧ b n = some y ∧ R x y

section

variable {R : Branch W T C → Branch W T C → Prop} {a b : Site W T C}

theorem Paired.put (h : Paired R a b) (n : Nat) {x y : Branch W T C} (hxy : R x y) :
    Paired R (a.put n x) (b.put n y) := by
  intro m
  unfold Site.put
  by_cases hm : m = n
  · simp only [hm, if_true]
    exact .inr ⟨x, y, rfl, rfl, hxy⟩
  · simpa only [hm, if_false] using h m

theorem Paired.cache (h : Paired R a b)
    (hR : ∀ x y, R x y → x.station.live = y.station.live ∧ x.station.state = y.station.state)
    (n : Nat) : a.cache? n = b.cache? n := by
  unfold cache?
  rcases h n with ⟨ha, hb⟩ | ⟨x, y, ha, hb, hxy⟩
  · rw [ha, hb]
  · obtain ⟨hlive, hstate⟩ := hR x y hxy
    simp only [ha, hb, Option.bind_some, hlive, hstate]

end

/-- Two routers with the same collaborators look the same to every call. -/
def SameView (x y : Branch W T C) : Prop :=
  x.parties = y.parties ∧ x.station.SameView y.station

theorem act_directly {a b : Site W T C} (h : Paired SameView a b) (n : Nat) (t : Turn W T C N) :
    let o := act n t a
    let o' := act n (a.directly n t) b
    Paired SameView o.state o'.state ∧ o.trace.SameWork o'.trace := by
  rcases h n with ⟨ha, hb⟩ | ⟨x, y, ha, hb, hparties, hview⟩
  · cases t with
    | found parties config world capacity =>
      simp only [directly, act, ha, hb]
      exact ⟨h.put n ⟨rfl, rfl, rfl, rfl⟩, .refl _⟩
    | deed d =>
      simp only [directly, act, ha, hb]
      exact ⟨h, .refl _⟩
  · cases t with
    | found parties config world capacity =>
      simp only [directly, act, ha, hb]
      exact ⟨h, .refl _⟩
    | deed d =>
      simp only [directly, act, ha, hb, Option.elim_some, ← hparties]
      obtain ⟨hviews, hwork⟩ := Station.act_directly x.parties hview d
      exact ⟨h.put n ⟨rfl, hviews⟩, hwork⟩

theorem run_direct {a b : Site W T C} (h : Paired SameView a b)
    (turns : List (Nat × Turn W T C N)) :
    (a.run turns).2.map Report.own = (b.run (a.direct turns)).2.map Report.own := by
  induction turns generalizing a b with
  | nil => rfl
  | cons turn turns ih =>
    obtain ⟨n, t⟩ := turn
    obtain ⟨hview, hwork⟩ := act_directly h n t
    have hrest := ih hview
    have hcache := hview.cache (fun x y hxy => ⟨hxy.2.live, hxy.2.state⟩) n
    simp only [run, direct, step, List.map_cons, hrest]
    simp only [Report.own, hcache, hwork.moves, hwork.ownLog, hwork.calls]

theorem sameView_refl (site : Site W T C) : Paired SameView site site := by
  intro n
  cases hn : site n with
  | none => exact .inl ⟨rfl, rfl⟩
  | some x => exact .inr ⟨x, x, rfl, rfl, rfl, rfl, rfl, rfl⟩

/-- Events that come through the channel come to the same as calls that hand them over. If the
listener of a router runs until it waits, and nobody has told it to stop, it hands over all that
waited, in order; so does `settle`. If meanwhile more events are put on the channel, however this
falls between the steps of the listener, it hands over those too. And in every run of a site, with
whatever operations in between and on whichever routers, calls could take the place of the channel:
each turn does the same to its router and to the metrics, makes the same calls, and leaves the same
lines of the router itself. This holds also for a listener that was told to stop, which may do so
while events still wait; the calls then leave those out. -/
theorem the_channel_hands_over_as_calls_do :
    (∀ (station : Station W C) (turns : List KeyRoute.Turn), station.listening = true →
      (station.listener.work turns).1.Quiet →
      let o : Outcome (Station W C) T C (Answer C N) Unit := Station.listen turns station
      let d : Outcome (State W C) T C (Answer C N) Unit :=
        station.router.handleAll station.listener.waiting station.state
      station.heard turns = station.listener.waiting ∧ o.state.state = d.state ∧
      o.trace.moves = d.trace.moves ∧ o.trace.ownLog = d.trace.log ∧ o.trace.calls = []) ∧
    (∀ station : Station W C, ∃ turns, (station.listener.work turns).1.Quiet ∧
      (Station.settle station : Outcome (Station W C) T C (Answer C N) Unit) =
        Station.listen turns station) ∧
    (∀ (station : Station W C) (mix : List (Event ⊕ List KeyRoute.Turn)),
      station.listening = true →
      let o : Outcome (Station W C) T C (Answer C N) (List Event) := Station.feed mix station
      o.state.listener.Quiet →
      let d : Outcome (State W C) T C (Answer C N) Unit :=
        station.router.handleAll (station.listener.waiting ++ o.answer) station.state
      o.state.state = d.state ∧ o.trace.moves = d.trace.moves ∧
      o.trace.ownLog = d.trace.log ∧ o.trace.calls = []) ∧
    ∀ (site : Site W T C) (turns : List (Nat × Turn W T C N)),
      (site.run turns).2.map Report.own = (site.run (site.direct turns)).2.map Report.own := by
  refine ⟨?_, ?_, ?_, fun site turns => run_direct (sameView_refl site) turns⟩
  · intro station turns hlistening hquiet o d
    have hheeds := Station.heeds_of_listening hlistening
    obtain ⟨hwaiting, -⟩ := Listener.work_takes hheeds.handler turns
    have hall : station.heard turns = station.listener.waiting := by
      rw [hwaiting, (Listener.heeds_work hheeds turns).drained_of_quiet hquiet, List.append_nil]
      rfl
    obtain ⟨hstate, hwork⟩ := Station.listen_handles (T := T) (A := Answer C N) turns station
    have hinward := station.router.inward_handleAll (T := T) (A := Answer C N)
      station.listener.waiting station.state
    rw [hall] at hstate hwork
    exact ⟨hall, congrArg Station.state hstate, hwork.moves, hwork.ownLog.trans hinward.log,
      hwork.calls.trans hinward.calls⟩
  · intro station
    obtain ⟨turns, hsettle, hquiet⟩ := station.listener.settle_works
    refine ⟨turns, hquiet, ?_⟩
    unfold Station.settle Station.listen
    simp only [Act.bind_apply, Station.onListener, hsettle]
  · intro station mix hlistening o hquiet d
    obtain ⟨handled, htaken, hstate, hwork, hheeds⟩ :=
      Station.fed (T := T) (A := Answer C N) mix station (Station.heeds_of_listening hlistening)
    have hinward := station.router.inward_handleAll (T := T) (A := Answer C N) handled station.state
    rw [hheeds.drained_of_quiet hquiet, List.append_nil] at htaken
    simp only [d, o, htaken]
    exact ⟨hstate, hwork.moves, hwork.ownLog.trans hinward.log, hwork.calls.trans hinward.calls⟩

/-- Two events wait, and a third comes when the first of them was handled. The handle that the
second event takes away is gone after that, as it is if all three are handed over by calls. -/
theorem a_third_event_comes_meanwhile :
    let ready : Event := .announcement .ready
    let station : Station Cluster Handle :=
      ⟨⟨"svc", true⟩, ⟨Cluster.start "a" "svc" [], ⟨[("b", .remote "svc" "b" 1)]⟩⟩,
        ((Listener.spawn 64).sendAll [ready, .changes [.new "b" .faulty]]).1, true⟩
    let settled : Outcome (Station Cluster Handle) Wire Handle (Answer Handle Empty) Unit :=
      Station.listen [.start, .receive, .receive] station
    let fed : Outcome (Station Cluster Handle) Wire Handle (Answer Handle Empty) (List Event) :=
      Station.feed [.inr [.start, .receive], .inl ready, .inr [.receive, .receive]] station
    station.listening = true ∧ settled.state.state.cache.addresses = [] ∧
    settled.trace.moves = [Sample.down .cachedClients, Sample.up .evictions] ∧
    fed.answer = [ready] ∧
    fed.trace.ownLog = [.eventIgnored .ready, .memberUnreachable (.new "b" .faulty), .evicted "b",
      .eventIgnored .ready] := by
  intro ready station settled fed
  have hlistening : station.listening = true := by decide +kernel
  have h := the_channel_hands_over_as_calls_do (W := Cluster) (T := Wire) (C := Handle) (N := Empty)
  obtain ⟨-, hstate, hmoves, -, -⟩ :=
    h.1 station [.start, .receive, .receive] hlistening (by decide +kernel)
  obtain ⟨-, -, hlog, -⟩ := h.2.2.1 station
    [.inr [.start, .receive], .inl ready, .inr [.receive, .receive]] hlistening (by decide +kernel)
  refine ⟨hlistening, ?_, hmoves.trans (by decide +kernel), by decide +kernel,
    hlog.trans (by decide +kernel)⟩
  simp only [settled, hstate]
  decide +kernel

/-- A listener that was told to stop is not among those that hand over all that waits. This one
still runs, and a dead node is reported in its channel; but it may stop before it looks there, and
then the handle of that node stays, which a call with the same event takes away. -/
theorem a_signal_leaves_an_event_behind :
    let event : Event := .changes [.new "b" .faulty]
    let deeds : List (Station.Deed Cluster Empty) :=
      [.operate (.get "k" []), .listen [.start], .send event, .signal]
    let site : Site Cluster Wire Handle := ((empty : Site Cluster Wire Handle).run
      ((0, .found Cluster.parties .default (Cluster.start "a" "svc" [("k", "b")]) 1) ::
        deeds.map fun d => (0, .deed d))).1
    let heard := site.step 0 (.deed (.listen [.stop]) : Turn Cluster Wire Handle Empty)
    let called := site.step 0 (.deed (.operate (.handle [event])) : Turn Cluster Wire Handle Empty)
    let task (site : Site Cluster Wire Handle) := (site 0).map fun branch =>
      (branch.station.listener.task, branch.station.listener.waiting)
    task site = some (.running, [event]) ∧ task heard.1 = some (.ended .stopped, [event]) ∧
    (heard.1 0).any (fun branch => decide branch.station.listener.Quiet) = true ∧
    heard.2.cache.map Cache.addresses = some ["b"] ∧
    called.2.cache.map Cache.addresses = some [] := by
  intro event deeds site heard called task
  exact ⟨by decide +kernel, by decide +kernel, by decide +kernel, by decide +kernel,
    by decide +kernel⟩

end Site

end KeyRoute
