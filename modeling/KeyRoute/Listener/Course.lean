-- All that can happen to a listener, in any order: others send events, drop their ends and give
-- the signal, and the task takes steps. A course keeps the events that the channel took and what
-- the task did.
import KeyRoute.Listener.Basic

namespace KeyRoute

/-- Something that happens to a listener. -/
inductive Listener.Deed where
  | send (event : Event)
  | dropSender
  | dropHandler
  | signal
  | dropSignal
  /-- The task takes a step, if it is possible. -/
  | turn (t : Turn)
deriving DecidableEq

/-- A listener with its past. -/
structure Course where
  listener : Listener
  /-- The events that the channel took, in their order. -/
  accepted : List Event
  /-- What the task did, in order. -/
  emissions : List Emission
deriving DecidableEq

namespace Listener

/-- Whether the task is to stop when it next looks. -/
def told (l : Listener) : Bool := l.signalled || !l.signalAlive

/-- The task takes some steps, as far as they are possible; gives what it did. -/
def work (l : Listener) : List Turn → Listener × List Emission
  | [] => (l, [])
  | t :: turns =>
    match l.turn t with
    | some (l, emission) =>
      let (l, emissions) := l.work turns
      (l, emission :: emissions)
    | none => l.work turns

end Listener

namespace Course

/-- A listener that was just spawned. -/
def start (capacity : Nat) : Course := ⟨.spawn capacity, [], []⟩

/-- The events that were handled, in their order. -/
def handled (c : Course) : List Event := Emission.events c.emissions

/-- What the task wrote into the log. -/
def log (c : Course) : List Notice := c.emissions.flatMap Emission.log

def act (c : Course) : Listener.Deed → Course
  | .send event =>
    let (l, verdict) := c.listener.send event
    { c with listener := l, accepted := c.accepted ++ if verdict = .sent then [event] else [] }
  | .dropSender => { c with listener := c.listener.dropSender }
  | .dropHandler => { c with listener := c.listener.dropHandler }
  | .signal => { c with listener := c.listener.signal.1 }
  | .dropSignal => { c with listener := c.listener.dropSignal }
  | .turn t =>
    match c.listener.turn t with
    | some (l, emission) => { c with listener := l, emissions := c.emissions ++ [emission] }
    | none => c

/-- All deeds, in order. -/
def run (c : Course) : List Listener.Deed → Course
  | [] => c
  | deed :: deeds => (c.act deed).run deeds

end Course

end KeyRoute
