-- The life of a listener task. It starts once and ends once, and the log tells of both. Nothing
-- that it is told can be lost: as long as it lives and waits, nobody has told it to stop, nobody
-- has closed the channel, and no event is left for it.
import KeyRoute.Proofs.Delivery

namespace KeyRoute

/-! ## One life -/

/-- A task that runs does not go back to its start, and an end is for good. -/
def Task.MayBecome : Task → Task → Prop
  | .spawned, _ => True
  | .running, later => later ≠ .spawned
  | .ended cause, later => later = .ended cause

theorem Task.MayBecome.refl (task : Task) : task.MayBecome task := by
  cases task <;> simp [MayBecome]

theorem Task.MayBecome.trans {a b c : Task} (h : a.MayBecome b) (h' : b.MayBecome c) :
    a.MayBecome c := by
  cases a with
  | spawned => trivial
  | running =>
    cases b with
    | spawned => exact absurd rfl h
    | running => exact h'
    | ended cause =>
      rw [show c = .ended cause from h']
      exact Task.noConfusion
  | ended cause =>
    rw [show b = .ended cause from h] at h'
    exact h'

/-- The lines that a task has written when it has come so far. -/
def Task.lines : Task → List Notice
  | .spawned => []
  | .running => [.listenerStarted]
  | .ended cause => [.listenerStarted, cause.notice]

namespace Listener

theorem Turned.mayBecome {l l' : Listener} {emission : Emission} (h : l.Turned l' emission) :
    l.task.MayBecome l'.task := by
  cases h with
  | started htask | handled htask | orphaned htask | closed htask | stopped htask =>
    simp [htask, Task.MayBecome]

theorem Turned.lines {l l' : Listener} {emission : Emission} (h : l.Turned l' emission) :
    l'.task.lines = l.task.lines ++ emission.log := by
  cases h with
  | started htask | handled htask | orphaned htask | closed htask | stopped htask =>
    simp [htask, Task.lines, Emission.log]

/-- What a task still has before it that can take no step and has not ended: nothing. -/
theorem Quiet.nothing_left {l : Listener} (h : l.Quiet) (hlives : l.hasEnded = false) :
    l.task = .running ∧ l.waiting = [] ∧ l.senderAlive = true ∧ l.told = false := by
  have hrunning : l.task = .running := by
    cases htask : l.task with
    | spawned =>
      have hstart := h .start
      simp [turn, htask] at hstart
    | running => rfl
    | ended cause => simp [hasEnded, htask] at hlives
  have hreceive := h .receive
  have hstop := h .stop
  simp only [turn, hrunning, if_true, true_and] at hreceive hstop
  refine ⟨hrunning, ?_⟩
  cases hwaiting : l.waiting with
  | nil =>
    rw [hwaiting] at hreceive
    cases hsender : l.senderAlive with
    | true =>
      refine ⟨rfl, rfl, ?_⟩
      unfold told
      cases htold : l.signalled || !l.signalAlive with
      | true => simp [htold] at hstop
      | false => rfl
    | false => simp [hsender] at hreceive
  | cons event rest =>
    rw [hwaiting] at hreceive
    cases halive : l.handlerAlive <;> simp [halive] at hreceive

/-- The channel of a task that has ended takes nothing. -/
theorem send_ended {l : Listener} (h : l.hasEnded = true) (event : Event) :
    l.send event = (l, if l.senderAlive then .closed else .noSender) := by
  unfold send
  cases l.senderAlive <;> simp [h]

end Listener

namespace Course

theorem mayBecome_act (c : Course) (deed : Listener.Deed) :
    c.listener.task.MayBecome (c.act deed).listener.task := by
  rcases c.act_cases deed with ⟨htask, -, -⟩ | ⟨l, emission, hturned, hact⟩
  · rw [htask]
    exact .refl _
  · rw [hact]
    exact hturned.mayBecome

theorem mayBecome_run (c : Course) (deeds : List Listener.Deed) :
    c.listener.task.MayBecome (c.run deeds).listener.task :=
  run_keeps (P := fun d => c.listener.task.MayBecome d.listener.task)
    (fun d deed hd => hd.trans (d.mayBecome_act deed)) (.refl _) deeds

/-- The log tells how far the task has come. -/
def Told (c : Course) : Prop := c.log = c.listener.task.lines

theorem told_act {c : Course} (h : c.Told) (deed : Listener.Deed) : (c.act deed).Told := by
  unfold Told log at *
  rcases c.act_cases deed with ⟨htask, hemissions, -⟩ | ⟨l, emission, hturned, hact⟩
  · rw [htask, hemissions, h]
  · simp only [hact, List.flatMap_append, h, hturned.lines, List.flatMap_singleton]

theorem told_run {c : Course} (h : c.Told) (deeds : List Listener.Deed) : (c.run deeds).Told :=
  run_keeps (P := Told) (fun _ deed hc => told_act hc deed) h deeds

/-! ## Nothing is taken after the end -/

theorem hasEnded_run {c : Course} (h : c.listener.hasEnded = true) (deeds : List Listener.Deed) :
    (c.run deeds).listener.hasEnded = true := by
  have hlater := c.mayBecome_run deeds
  unfold Listener.hasEnded at h ⊢
  cases htask : c.listener.task with
  | spawned | running =>
    rw [htask] at h
    cases h
  | ended cause =>
    rw [htask] at hlater
    rw [show (c.run deeds).listener.task = .ended cause from hlater]

theorem accepted_act_of_ended {c : Course} (h : c.listener.hasEnded = true)
    (deed : Listener.Deed) : (c.act deed).accepted = c.accepted := by
  cases deed with
  | send event =>
    simp only [act]
    rcases c.listener.send_cases event with ⟨-, hlives, -⟩ | ⟨hrefused, -⟩
    · rw [h] at hlives
      cases hlives
    · rw [if_neg hrefused, List.append_nil]
  | dropSender | dropHandler | signal | dropSignal => rfl
  | turn t =>
    simp only [act]
    split <;> rfl

theorem accepted_run_of_ended {c : Course} (h : c.listener.hasEnded = true)
    (deeds : List Listener.Deed) : (c.run deeds).accepted = c.accepted := by
  refine (run_keeps (P := fun d => d.listener.hasEnded = true ∧ d.accepted = c.accepted)
    ?_ ⟨h, rfl⟩ deeds).2
  intro d deed hd
  exact ⟨hasEnded_run hd.1 [deed], (accepted_act_of_ended hd.1 deed).trans hd.2⟩

/-! ## What a listener knows of the deeds -/

/-- What a listener sees of its surroundings is what was done to them. A signal that was given is
seen for as long as the task lives. -/
structure Recalls (c : Course) (deeds : List Listener.Deed) : Prop where
  sender : c.listener.senderAlive = false ↔ .dropSender ∈ deeds
  handler : c.listener.handlerAlive = false ↔ .dropHandler ∈ deeds
  signaller : c.listener.signalAlive = false ↔ .dropSignal ∈ deeds
  given : c.listener.signalled = true → .signal ∈ deeds
  kept : .signal ∈ deeds → c.listener.told = true ∨ c.listener.hasEnded = true

theorem recalls_start (capacity : Nat) : (start capacity).Recalls [] := by
  constructor <;> simp [start, Listener.spawn]

/-- A deed that touches nothing that a listener recalls, and does not bring a task back. -/
theorem Recalls.same {c c' : Course} {past : List Listener.Deed} {deed : Listener.Deed}
    (h : c.Recalls past) (hsender : c'.listener.senderAlive = c.listener.senderAlive)
    (hhandler : c'.listener.handlerAlive = c.listener.handlerAlive)
    (hsignalled : c'.listener.signalled = c.listener.signalled)
    (hsignaller : c'.listener.signalAlive = c.listener.signalAlive)
    (hended : c.listener.hasEnded = true → c'.listener.hasEnded = true)
    (hdeed : deed ∉ [.dropSender, .dropHandler, .dropSignal, .signal]) :
    c'.Recalls (past ++ [deed]) := by
  simp only [List.mem_cons, List.not_mem_nil, or_false, not_or] at hdeed
  obtain ⟨h1, h2, h3, h4⟩ := hdeed
  constructor
  · rw [hsender, h.sender]
    simp [Ne.symm h1]
  · rw [hhandler, h.handler]
    simp [Ne.symm h2]
  · rw [hsignaller, h.signaller]
    simp [Ne.symm h3]
  · intro hs
    exact List.mem_append_left _ (h.given (hsignalled ▸ hs))
  · intro hs
    have hkept := h.kept (by simpa [Ne.symm h4] using hs)
    unfold Listener.told at hkept ⊢
    rw [hsignalled, hsignaller]
    exact hkept.imp_right hended

theorem recalls_act {c : Course} {past : List Listener.Deed} (h : c.Recalls past)
    (deed : Listener.Deed) : (c.act deed).Recalls (past ++ [deed]) := by
  cases deed with
  | send event =>
    simp only [act]
    rcases c.listener.send_cases event with ⟨-, -, -, hl⟩ | ⟨-, hl⟩
    · rw [hl]
      exact h.same rfl rfl rfl rfl id (by simp)
    · rw [hl]
      exact h.same rfl rfl rfl rfl id (by simp)
  | dropSender =>
    exact ⟨by simp [act, Listener.dropSender], by simpa [act, Listener.dropSender] using h.handler,
      by simpa [act, Listener.dropSender] using h.signaller,
      fun hs => List.mem_append_left _ (h.given hs),
      fun hs => h.kept (by simpa using hs)⟩
  | dropHandler =>
    exact ⟨by simpa [act, Listener.dropHandler] using h.sender, by simp [act, Listener.dropHandler],
      by simpa [act, Listener.dropHandler] using h.signaller,
      fun hs => List.mem_append_left _ (h.given hs),
      fun hs => h.kept (by simpa using hs)⟩
  | dropSignal =>
    exact ⟨by simpa [act, Listener.dropSignal] using h.sender,
      by simpa [act, Listener.dropSignal] using h.handler, by simp [act, Listener.dropSignal],
      fun hs => List.mem_append_left _ (h.given hs),
      fun _ => .inl (by simp [act, Listener.dropSignal, Listener.told])⟩
  | signal =>
    simp only [act]
    rcases c.listener.signal_cases with ⟨hl, -, -⟩ | ⟨hl, hlate⟩
    · rw [hl]
      exact ⟨by simpa using h.sender, by simpa using h.handler, by simpa using h.signaller,
        by simp, fun _ => .inl (by simp [Listener.told])⟩
    · rw [hl]
      exact ⟨by simpa using h.sender, by simpa using h.handler, by simpa using h.signaller,
        fun _ => by simp, fun _ => hlate.imp_left fun hgone => by simp [Listener.told, hgone]⟩
  | turn t =>
    simp only [act]
    split
    · rename_i hturn
      have hturned := Listener.turned hturn
      have hlives := hturned.not_ended
      cases hturned <;> exact h.same rfl rfl rfl rfl (by simp [hlives]) (by simp)
    · exact h.same rfl rfl rfl rfl id (by simp)

theorem recalls_run {c : Course} {past : List Listener.Deed} (h : c.Recalls past)
    (deeds : List Listener.Deed) : (c.run deeds).Recalls (past ++ deeds) := by
  induction deeds generalizing c past with
  | nil =>
    rw [List.append_nil]
    exact h
  | cons deed deeds ih =>
    rw [List.append_cons]
    exact ih (recalls_act h deed)

/-- A signal that was given, or whose giver is gone, was done. -/
theorem Recalls.of_told {c : Course} {deeds : List Listener.Deed} (h : c.Recalls deeds)
    (htold : c.listener.told = true) : .signal ∈ deeds ∨ .dropSignal ∈ deeds := by
  unfold Listener.told at htold
  rcases Bool.or_eq_true_iff.mp htold with hs | hs
  · exact .inl (h.given hs)
  · exact .inr (h.signaller.mp (by simpa using hs))

/-- Neither was done to a listener that lives and was not told to stop. -/
theorem Recalls.of_not_told {c : Course} {deeds : List Listener.Deed} (h : c.Recalls deeds)
    (htold : c.listener.told = false) (hlives : c.listener.hasEnded = false) :
    .signal ∉ deeds ∧ .dropSignal ∉ deeds := by
  constructor
  · intro hs
    have hkept := h.kept hs
    simp [htold, hlives] at hkept
  · intro hs
    simp [Listener.told, h.signaller.mpr hs] at htold

/-! ## The life of a listener -/

/-- What has to be so for a task to end with a cause, after some deeds and with its next step:
nobody can send and nothing waits; or the handler is gone and an event was received for it; or the
task was told to stop, or nobody is left who could tell it. -/
def Warranted (c later : Course) (deeds : List Listener.Deed) : Exit → Prop
  | .streamClosed => .dropSender ∈ deeds ∧ c.listener.waiting = []
  | .handlerGone => .dropHandler ∈ deeds ∧
    ∃ event, c.listener.waiting = event :: later.listener.waiting
  | .stopped => .signal ∈ deeds ∨ .dropSignal ∈ deeds

/-- A task that ends in a step says why, and says so truly. -/
theorem ends_warranted {c : Course} {deeds : List Listener.Deed} (h : c.Recalls deeds)
    (hlives : c.listener.hasEnded = false) {deed : Listener.Deed} {cause : Exit}
    (hends : (c.act deed).listener.task = .ended cause) :
    (c.act deed).log = c.log ++ [cause.notice] ∧ c.Warranted (c.act deed) deeds cause := by
  rcases c.act_cases deed with ⟨htask, -, -⟩ | ⟨l, emission, hturned, hact⟩
  · rw [htask] at hends
    simp [Listener.hasEnded, hends] at hlives
  · rw [hact] at hends ⊢
    simp only [log, List.flatMap_append, List.flatMap_singleton, List.append_cancel_left_eq]
    cases hturned with
    | started => cases hends
    | handled htask => rw [htask] at hends; cases hends
    | orphaned htask hwaiting hgone =>
      cases hends
      exact ⟨rfl, h.handler.mp hgone, _, hwaiting⟩
    | closed htask hwaiting hgone =>
      cases hends
      exact ⟨rfl, h.sender.mp hgone, hwaiting⟩
    | stopped htask htold =>
      cases hends
      exact ⟨rfl, h.of_told htold⟩

/-- Whatever is done to a listener, in whatever order, also before its first run: its task starts at
most once, ends at most once, and never goes back. It says when it started, and when it ends it says
why, which is true. After that its channel takes nothing and nothing is handled. And a task that can
take no step but has not ended has nothing left to do: no event waits, there is still a sender, and
nobody has told it to stop, so no signal is lost. -/
theorem a_listener_has_one_life (capacity : Nat) (deeds : List Listener.Deed) :
    let c := (start capacity).run deeds
    (∀ more, c.listener.task.MayBecome (c.run more).listener.task) ∧
    c.log.map Notice.message =
      (match c.listener.task with
      | .spawned => []
      | .running => ["Membership listener task started."]
      | .ended .streamClosed => ["Membership listener task started.",
          "Membership event stream closed. Listener exiting."]
      | .ended .handlerGone => ["Membership listener task started.",
          "Router dropped. Membership listener exiting."]
      | .ended .stopped => ["Membership listener task started.",
          "Membership listener shutting down."]) ∧
    (c.listener.hasEnded = false →
      ∀ deed cause, (c.act deed).listener.task = .ended cause →
        (c.act deed).log = c.log ++ [cause.notice] ∧
          c.Warranted (c.act deed) deeds cause) ∧
    (c.listener.hasEnded = true →
      ∀ more, (c.run more).handled = c.handled ∧ (c.run more).accepted = c.accepted ∧
        ∀ event, ((c.run more).listener.send event).2 =
          if (c.run more).listener.senderAlive then .closed else .noSender) ∧
    (c.listener.Quiet → c.listener.hasEnded = false →
      c.listener.waiting = [] ∧ .dropSender ∉ deeds ∧ .signal ∉ deeds ∧ .dropSignal ∉ deeds) := by
  intro c
  have hrecalls : c.Recalls deeds := recalls_run (recalls_start capacity) deeds
  refine ⟨c.mayBecome_run, ?_, fun hlives deed cause => ends_warranted hrecalls hlives, ?_, ?_⟩
  · have htold : c.Told := told_run (c := start capacity) rfl deeds
    rw [show c.log = c.listener.task.lines from htold]
    rcases c.listener.task with _ | _ | ⟨⟨⟩⟩ <;> rfl
  · intro hended more
    refine ⟨handled_run_of_over (.inr hended) more, accepted_run_of_ended hended more, ?_⟩
    intro event
    rw [Listener.send_ended (hasEnded_run hended more)]
  · intro hquiet hlives
    obtain ⟨-, hwaiting, hsender, htold⟩ := hquiet.nothing_left hlives
    refine ⟨hwaiting, fun hs => ?_, hrecalls.of_not_told htold hlives⟩
    rw [hrecalls.sender.mpr hs] at hsender
    cases hsender

/-- The signal comes before the first run and once more after it, and an event waits all the time;
the task has a choice then, and stops. -/
theorem an_early_signal_is_not_lost :
    let ready : Event := .announcement .ready
    let deeds : List Listener.Deed := [.signal, .send ready, .turn .start, .signal]
    ((start 1).run deeds).listener.hasEnded = false ∧
    (((start 1).run deeds).act (.turn .stop)).listener.task = .ended .stopped ∧
    (((start 1).run deeds).act (.turn .stop)).log =
      ((start 1).run deeds).log ++ [.listenerStopped] := by
  intro ready deeds
  have hlives : ((start 1).run deeds).listener.hasEnded = false := by decide +kernel
  have hends : (((start 1).run deeds).act (.turn .stop)).listener.task = .ended .stopped := by
    decide +kernel
  have h := (a_listener_has_one_life 1 deeds).2.2.1 hlives (.turn .stop) .stopped hends
  exact ⟨hlives, hends, h.1⟩

end Course

end KeyRoute
