-- How events come through the channel. Each send and each step of the task is told once, and from
-- that the balance of a course: what the channel took is what was handled, what was lost with the
-- handler, and what still waits, in this order.
import KeyRoute.Listener.Course

namespace KeyRoute

namespace Listener

/-! ## One step -/

/-- An event is put behind the others of a task that has not ended, where there is room, or the
channel does not take it. -/
theorem send_cases (l : Listener) (event : Event) :
    ((l.send event).2 = .sent ∧ l.hasEnded = false ∧ l.waiting.length < l.capacity ∧
      (l.send event).1 = { l with waiting := l.waiting ++ [event] }) ∨
    ((l.send event).2 ≠ .sent ∧ (l.send event).1 = l) := by
  unfold send
  split
  · exact .inr ⟨Verdict.noConfusion, rfl⟩
  · split
    · exact .inr ⟨Verdict.noConfusion, rfl⟩
    · rename_i hended
      split
      · exact .inr ⟨Verdict.noConfusion, rfl⟩
      · rename_i hroom
        exact .inl ⟨rfl, Bool.eq_false_iff.mpr hended, Nat.lt_of_not_le hroom, rfl⟩

/-- The signal changes at most that it was given. -/
theorem signal_cases (l : Listener) :
    (l.signal.1 = { l with signalled := true } ∧ l.signalAlive = true ∧ l.hasEnded = false) ∨
    (l.signal.1 = l ∧ (l.signalAlive = false ∨ l.hasEnded = true)) := by
  unfold signal
  cases l.signalAlive <;> cases l.hasEnded <;> simp

/-- All that a step of the task can be. -/
inductive Turned (l : Listener) : Listener → Emission → Prop
  | started (h : l.task = .spawned) : Turned l { l with task := .running } .started
  | handled {event : Event} {rest : List Event} (h : l.task = .running)
      (hwaiting : l.waiting = event :: rest) (halive : l.handlerAlive = true) :
      Turned l { l with waiting := rest } (.handled event)
  | orphaned {event : Event} {rest : List Event} (h : l.task = .running)
      (hwaiting : l.waiting = event :: rest) (hgone : l.handlerAlive = false) :
      Turned l { l with waiting := rest, task := .ended .handlerGone } (.exited .handlerGone)
  | closed (h : l.task = .running) (hwaiting : l.waiting = []) (hgone : l.senderAlive = false) :
      Turned l { l with task := .ended .streamClosed } (.exited .streamClosed)
  | stopped (h : l.task = .running) (htold : l.told = true) :
      Turned l { l with task := .ended .stopped } (.exited .stopped)

theorem turned {l l' : Listener} {t : Turn} {emission : Emission}
    (h : l.turn t = some (l', emission)) : l.Turned l' emission := by
  unfold turn at h
  cases t with
  | start =>
    simp only at h
    split at h
    · rename_i hspawned
      cases h
      exact .started hspawned
    · cases h
  | receive =>
    simp only at h
    split at h
    · rename_i hrunning
      split at h
      · rename_i event rest hwaiting
        split at h
        · rename_i halive
          cases h
          exact .handled hrunning hwaiting halive
        · rename_i hgone
          cases h
          exact .orphaned hrunning hwaiting (Bool.eq_false_iff.mpr hgone)
      · rename_i hwaiting
        split at h
        · cases h
        · rename_i hgone
          cases h
          exact .closed hrunning hwaiting (Bool.eq_false_iff.mpr hgone)
    · cases h
  | stop =>
    simp only at h
    split at h
    · rename_i hstop
      cases h
      exact .stopped hstop.1 hstop.2
    · cases h

/-- Only a task that has not ended takes a step. -/
theorem Turned.not_ended {l l' : Listener} {emission : Emission} (h : l.Turned l' emission) :
    l.hasEnded = false := by
  unfold hasEnded
  cases h with
  | started h | handled h | orphaned h | closed h | stopped h => rw [h]

end Listener

namespace Course

/-- What every deed keeps, a course keeps. -/
theorem run_keeps {P : Course → Prop} (hact : ∀ c deed, P c → P (c.act deed)) {c : Course}
    (h : P c) (deeds : List Listener.Deed) : P (c.run deeds) := by
  induction deeds generalizing c with
  | nil => exact h
  | cons deed deeds ih => exact ih (hact c deed h)

/-! ## The balance -/

/-- What a task has taken out of the channel and not handled: the event at which it found the
handler gone. -/
def lost : Task → List Event → Prop
  | .ended .handlerGone, events => ∃ event, events = [event]
  | _, events => events = []

/-- What holds of every course. -/
structure Balanced (c : Course) : Prop where
  room : c.listener.waiting.length ≤ c.listener.capacity
  split : ∃ events, lost c.listener.task events ∧
    c.accepted = c.handled ++ events ++ c.listener.waiting
  drained : c.listener.task = .ended .streamClosed → c.listener.waiting = []

theorem lost_of_not_ended {l : Listener} (h : l.hasEnded = false) {events : List Event}
    (hlost : lost l.task events) : events = [] := by
  unfold Listener.hasEnded at h
  cases htask : l.task with
  | spawned | running =>
    rw [htask] at hlost
    exact hlost
  | ended cause =>
    rw [htask] at h
    cases h

theorem balanced_start (capacity : Nat) : (start capacity).Balanced where
  room := Nat.zero_le _
  split := ⟨[], rfl, rfl⟩
  drained := by
    intro h
    cases h

theorem balanced_send {c : Course} (h : c.Balanced) (event : Event) :
    (c.act (.send event)).Balanced := by
  obtain ⟨hroom, ⟨events, hlost, hsplit⟩, hdrained⟩ := h
  simp only [act]
  rcases c.listener.send_cases event with ⟨hsent, hended, hfree, hl⟩ | ⟨hrefused, hl⟩
  · have hnone := lost_of_not_ended hended hlost
    subst hnone
    simp only [hsent, hl, if_true]
    refine ⟨?_, ⟨[], hlost, ?_⟩, ?_⟩
    · simp only [List.length_append, List.length_singleton]
      exact hfree
    · simp only [hsplit, handled, List.append_nil, List.append_assoc]
    · intro htask
      simp [Listener.hasEnded, show c.listener.task = _ from htask] at hended
  · simp only [hl, if_neg hrefused, List.append_nil]
    exact ⟨hroom, ⟨events, hlost, hsplit⟩, hdrained⟩

theorem balanced_turn {c : Course} (h : c.Balanced) {l : Listener} {emission : Emission}
    (hturned : c.listener.Turned l emission) :
    (⟨l, c.accepted, c.emissions ++ [emission]⟩ : Course).Balanced := by
  obtain ⟨hroom, ⟨events, hlost, hsplit⟩, -⟩ := h
  have hnone := lost_of_not_ended hturned.not_ended hlost
  subst hnone
  rw [List.append_nil] at hsplit
  cases hturned with
  | started htask =>
    exact ⟨hroom, ⟨[], rfl, by simp [hsplit, handled, Emission.events]⟩, by simp⟩
  | @handled event rest htask hwaiting halive =>
    rw [hwaiting] at hroom hsplit
    exact ⟨Nat.le_of_succ_le hroom, ⟨[], hlost, by simp [hsplit, handled, Emission.events]⟩,
      by simp [htask]⟩
  | @orphaned event rest htask hwaiting hgone =>
    rw [hwaiting] at hroom hsplit
    exact ⟨Nat.le_of_succ_le hroom, ⟨[event], ⟨event, rfl⟩,
      by simp [hsplit, handled, Emission.events]⟩, by simp⟩
  | closed htask hwaiting hgone =>
    exact ⟨hroom, ⟨[], rfl, by simp [hsplit, handled, Emission.events]⟩, fun _ => hwaiting⟩
  | stopped htask htold =>
    exact ⟨hroom, ⟨[], rfl, by simp [hsplit, handled, Emission.events]⟩, by simp⟩

theorem balanced_act {c : Course} (h : c.Balanced) (deed : Listener.Deed) :
    (c.act deed).Balanced := by
  cases deed with
  | send event => exact balanced_send h event
  | dropSender | dropHandler | dropSignal => exact ⟨h.room, h.split, h.drained⟩
  | signal =>
    simp only [act]
    rcases c.listener.signal_cases with ⟨hl, -⟩ | ⟨hl, -⟩
    · rw [hl]
      exact ⟨h.room, h.split, h.drained⟩
    · rw [hl]
      exact h
  | turn t =>
    simp only [act]
    split
    · rename_i hturn
      exact balanced_turn h (Listener.turned hturn)
    · exact h

theorem balanced_run {c : Course} (h : c.Balanced) (deeds : List Listener.Deed) :
    (c.run deeds).Balanced :=
  run_keeps (P := Balanced) (fun _ deed hc => balanced_act hc deed) h deeds

/-! ## After the end -/

/-- A deed leaves the task and what it did as they were, or it is a step of the task. -/
theorem act_cases (c : Course) (deed : Listener.Deed) :
    ((c.act deed).listener.task = c.listener.task ∧ (c.act deed).emissions = c.emissions ∧
      (c.listener.handlerAlive = false → (c.act deed).listener.handlerAlive = false)) ∨
    ∃ l emission, c.listener.Turned l emission ∧
      c.act deed = ⟨l, c.accepted, c.emissions ++ [emission]⟩ := by
  cases deed with
  | send event =>
    simp only [act]
    rcases c.listener.send_cases event with ⟨-, -, -, hl⟩ | ⟨-, hl⟩ <;> simp [hl]
  | dropSender | dropHandler | dropSignal =>
    simp [act, Listener.dropSender, Listener.dropHandler, Listener.dropSignal]
  | signal =>
    simp only [act]
    rcases c.listener.signal_cases with ⟨hl, -⟩ | ⟨hl, -⟩ <;> simp [hl]
  | turn t =>
    simp only [act]
    split
    · rename_i l emission hturn
      exact .inr ⟨l, emission, Listener.turned hturn, rfl⟩
    · exact .inl ⟨rfl, rfl, id⟩

theorem capacity_act (c : Course) (deed : Listener.Deed) :
    (c.act deed).listener.capacity = c.listener.capacity := by
  cases deed with
  | send event =>
    simp only [act]
    rcases c.listener.send_cases event with ⟨-, -, -, hl⟩ | ⟨-, hl⟩ <;> rw [hl]
  | dropSender | dropHandler | dropSignal => rfl
  | signal =>
    simp only [act]
    rcases c.listener.signal_cases with ⟨hl, -⟩ | ⟨hl, -⟩ <;> rw [hl]
  | turn t =>
    simp only [act]
    split
    · rename_i hturn
      cases Listener.turned hturn <;> rfl
    · rfl

theorem capacity_run (c : Course) (deeds : List Listener.Deed) :
    (c.run deeds).listener.capacity = c.listener.capacity :=
  run_keeps (P := fun d => d.listener.capacity = c.listener.capacity)
    (fun d deed hd => (d.capacity_act deed).trans hd) rfl deeds

/-- No event will be handled any more: there is no handler, or no task. -/
def Over (c : Course) : Prop := c.listener.handlerAlive = false ∨ c.listener.hasEnded = true

theorem over_act {c : Course} (h : c.Over) (deed : Listener.Deed) :
    (c.act deed).Over ∧ (c.act deed).handled = c.handled := by
  rcases c.act_cases deed with ⟨htask, hemissions, halive⟩ | ⟨l, emission, hturned, hact⟩
  · refine ⟨h.imp halive fun hended => ?_, congrArg Emission.events hemissions⟩
    unfold Listener.hasEnded at hended ⊢
    rwa [htask]
  · have hgone : c.listener.handlerAlive = false :=
      h.resolve_right (by simp [hturned.not_ended])
    rw [hact]
    cases hturned with
    | handled htask hwaiting halive =>
      rw [hgone] at halive
      cases halive
    | started | orphaned | closed | stopped =>
      exact ⟨.inl hgone, by simp [handled, Emission.events]⟩

theorem handled_run_of_over {c : Course} (h : c.Over) (deeds : List Listener.Deed) :
    (c.run deeds).handled = c.handled := by
  refine (run_keeps (P := fun d => d.Over ∧ d.handled = c.handled) ?_ ⟨h, rfl⟩ deeds).2
  intro d deed hd
  obtain ⟨hover, hhandled⟩ := over_act hd.1 deed
  exact ⟨hover, hhandled.trans hd.2⟩

/-! ## Delivery -/

/-- Whatever others do to a listener, in whatever order, and whichever of its possible steps the
task takes: the events are handled in the order in which the channel took them, and none twice.
While the task lives, those that were not handled still wait; after its end, or once the handler is
gone, no more are handled. A task that ended because the channel was closed has handled all of them,
and one that ended otherwise all but those that waited and the one at which it found the handler
gone. -/
theorem events_are_delivered_in_their_order (capacity : Nat) (deeds : List Listener.Deed) :
    let c := (start capacity).run deeds
    c.handled <+: c.accepted ∧
    (∀ event, c.handled.count event ≤ c.accepted.count event) ∧
    (c.listener.hasEnded = false →
      c.accepted = c.handled ++ c.listener.waiting ∧ c.listener.waiting.length ≤ capacity) ∧
    (c.listener.handlerAlive = false ∨ c.listener.hasEnded = true →
      ∀ more, (c.run more).handled = c.handled) ∧
    (c.listener.task = .ended .streamClosed → c.handled = c.accepted) ∧
    (c.listener.task = .ended .handlerGone →
      ∃ event, c.accepted = c.handled ++ event :: c.listener.waiting) ∧
    (c.listener.task = .ended .stopped → c.accepted = c.handled ++ c.listener.waiting) := by
  intro c
  have hbalanced : c.Balanced := balanced_run (balanced_start capacity) deeds
  obtain ⟨events, hlost, hsplit⟩ := hbalanced.split
  have hfirst : c.handled <+: c.accepted := ⟨events ++ c.listener.waiting, by simp [hsplit]⟩
  refine ⟨hfirst, fun event => hfirst.sublist.count_le event, ?_,
    fun hover more => handled_run_of_over hover more, ?_, ?_, ?_⟩
  · intro hlives
    have hnone := lost_of_not_ended hlives hlost
    subst hnone
    refine ⟨by simpa using hsplit, ?_⟩
    calc c.listener.waiting.length ≤ c.listener.capacity := hbalanced.room
      _ = capacity := capacity_run (start capacity) deeds
  · intro htask
    rw [htask] at hlost
    have hnone : events = [] := hlost
    simpa [hnone, hbalanced.drained htask] using hsplit.symm
  · intro htask
    rw [htask] at hlost
    obtain ⟨event, rfl⟩ := hlost
    exact ⟨event, by simpa using hsplit⟩
  · intro htask
    rw [htask] at hlost
    have hnone : events = [] := hlost
    simpa [hnone] using hsplit

/-- Three events for a channel with room for two; the handler goes after the first of them. -/
theorem the_second_event_finds_nobody :
    let ring : Event := .announcement (.ringChanged [] [])
    let ready : Event := .announcement .ready
    let deeds : List Listener.Deed := [.send ring, .send ready, .send ring, .turn .start,
      .turn .receive, .send ring, .dropHandler, .turn .receive, .send ready]
    ((start 2).run deeds).listener.task = .ended .handlerGone ∧
    ((start 2).run deeds).accepted = [ring, ready, ring] ∧
    ((start 2).run deeds).handled = [ring] ∧
    ∃ event, ((start 2).run deeds).accepted =
      ((start 2).run deeds).handled ++ event :: ((start 2).run deeds).listener.waiting := by
  intro ring ready deeds
  have htask : ((start 2).run deeds).listener.task = .ended .handlerGone := by decide +kernel
  have h := (events_are_delivered_in_their_order 2 deeds).2.2.2.2.2.1 htask
  exact ⟨htask, by decide +kernel, by decide +kernel, h⟩

end Course

end KeyRoute
