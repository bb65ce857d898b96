-- The task that feeds events into a handler. Senders put events into a bounded channel; the task
-- takes them out one by one, and ends when the channel is closed and empty, when the handler is
-- gone, or when it is told to stop. What it does next, if there is a choice, is not fixed: `turn`
-- gives each of its possible steps, and `settle` is one way to take them all.
import KeyRoute.Log.Notice

namespace KeyRoute

/-- Why a listener ended. -/
inductive Exit where
  | streamClosed
  | handlerGone
  | stopped
deriving DecidableEq

/-- The life of a listener task. -/
inductive Task where
  /-- It has not run yet. -/
  | spawned
  | running
  | ended (cause : Exit)
deriving DecidableEq

/-- A listener, with all that it can see. -/
structure Listener where
  /-- How many events may wait. -/
  capacity : Nat
  /-- The events in the channel, the oldest first. -/
  waiting : List Event
  senderAlive : Bool
  handlerAlive : Bool
  /-- Whether it was told to stop. -/
  signalled : Bool
  /-- Whether anybody is left who could tell it to stop. -/
  signalAlive : Bool
  task : Task
deriving DecidableEq

/-- What came of an event that was put on the channel. -/
inductive Verdict where
  | sent
  | full
  | closed
  | noSender
deriving DecidableEq

/-- Something that a listener does for others to see. -/
inductive Emission where
  | started
  | handled (event : Event)
  | exited (cause : Exit)
deriving DecidableEq

/-- A step that a listener can take. -/
inductive Turn where
  /-- It runs for the first time. -/
  | start
  /-- It takes what the channel has for it. -/
  | receive
  /-- It notices that it has to stop. -/
  | stop
deriving DecidableEq

def Verdict.name : Verdict → String
  | .sent => "sent"
  | .full => "full"
  | .closed => "closed"
  | .noSender => "no sender"

def Exit.notice : Exit → Notice
  | .streamClosed => .streamClosed
  | .handlerGone => .routerGone
  | .stopped => .listenerStopped

/-- What a listener itself writes into the log. -/
def Emission.log : Emission → List Notice
  | .started => [.listenerStarted]
  | .handled _ => []
  | .exited cause => [cause.notice]

/-- The events among some emissions. -/
def Emission.events (emissions : List Emission) : List Event :=
  emissions.filterMap fun
    | .handled event => some event
    | _ => none

namespace Listener

/-- A listener with an empty channel, everybody alive, before its first run. -/
def spawn (capacity : Nat) : Listener := ⟨capacity, [], true, true, false, true, .spawned⟩

/-- Whether the task has ended. -/
def hasEnded (l : Listener) : Bool :=
  match l.task with
  | .ended _ => true
  | _ => false

/-! ## What others do -/

/-- Puts an event on the channel, if it can be. -/
def send (l : Listener) (event : Event) : Listener × Verdict :=
  if !l.senderAlive then (l, .noSender)
  else if l.hasEnded then (l, .closed)
  else if l.capacity ≤ l.waiting.length then (l, .full)
  else ({ l with waiting := l.waiting ++ [event] }, .sent)

/-- Puts events on the channel one after the other. -/
def sendAll (l : Listener) : List Event → Listener × List Verdict
  | [] => (l, [])
  | event :: events =>
    let (l, verdict) := l.send event
    let (l, verdicts) := l.sendAll events
    (l, verdict :: verdicts)

/-- The sending end goes. -/
def dropSender (l : Listener) : Listener := { l with senderAlive := false }

/-- The handler goes. -/
def dropHandler (l : Listener) : Listener := { l with handlerAlive := false }

/-- The signal is given; says whether it could be. -/
def signal (l : Listener) : Listener × Bool :=
  if l.signalAlive && !l.hasEnded then ({ l with signalled := true }, true) else (l, false)

/-- Whoever could give the signal goes. -/
def dropSignal (l : Listener) : Listener := { l with signalAlive := false }

/-! ## What the task does -/

/-- The task ends. -/
def finish (l : Listener) (cause : Exit) : Listener × Emission :=
  ({ l with task := .ended cause }, .exited cause)

/-- A step, if it is possible. -/
def turn (l : Listener) : Turn → Option (Listener × Emission)
  | .start => if l.task = .spawned then some ({ l with task := .running }, .started) else none
  | .receive =>
    if l.task = .running then
      match l.waiting with
      | event :: rest =>
        let taken := { l with waiting := rest }
        if l.handlerAlive then some (taken, .handled event) else some (taken.finish .handlerGone)
      | [] => if l.senderAlive then none else some (l.finish .streamClosed)
    else none
  | .stop =>
    if l.task = .running ∧ (l.signalled || !l.signalAlive) then some (l.finish .stopped) else none

/-- No step is possible. -/
def Quiet (l : Listener) : Prop := ∀ t, l.turn t = none

/-- The first step that is possible, events before the signal. -/
def next (l : Listener) : Option (Listener × Emission) :=
  (l.turn .start).or ((l.turn .receive).or (l.turn .stop))

/-- So many steps, or fewer if no more are possible. -/
def steps : Nat → Listener → Listener × List Emission
  | 0, l => (l, [])
  | n + 1, l =>
    match l.next with
    | none => (l, [])
    | some (l, emission) =>
      let (l, emissions) := steps n l
      (l, emission :: emissions)

/-- Lets the task run until it waits: it starts, takes the waiting events, and maybe ends. -/
def settle (l : Listener) : Listener × List Emission := steps (l.waiting.length + 2) l

end Listener

end KeyRoute
