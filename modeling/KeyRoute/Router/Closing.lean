-- Calls that shut a router down, while anything else may happen at it: other calls come to shut it
-- down, its listener takes steps, events are put on its channel, and operations run.
import KeyRoute.Router.Site

namespace KeyRoute

/-- A router and the calls to shut it down, in the order in which they came. -/
structure Closing (W C : Type) where
  station : Station W C
  callers : List Stopper

namespace Closing

open Station (Reply)

variable {W T C N : Type}

/-- What may happen next. -/
inductive Step (W N : Type) where
  /-- One more call comes to shut the router down. -/
  | arrive
  /-- The call with this number takes its next step. -/
  | call (i : Nat)
  /-- Something else happens at the router. -/
  | deed (d : Station.Deed W N)

/-- A router that nobody has tried to shut down. -/
def start (station : Station W C) : Closing W C := ⟨station, []⟩

/-- Whether the listener of the router has ended. -/
def ended (c : Closing W C) : Bool := c.station.listener.hasEnded

/-- One more call. -/
def arrive (c : Closing W C) : Closing W C := { c with callers := c.callers ++ [.called] }

/-- The call with this number takes its next step. It works on the listener alone, and on the handle
on which one can wait for it. -/
def call (c : Closing W C) (i : Nat) : Closing W C :=
  let s := Shutdown.call ⟨c.station.listener, c.station.joinable, c.callers⟩ i
  ⟨{ c.station with listener := s.listener, joinable := s.joinable }, s.callers⟩

def act (parties : Collaborators W T C) :
    Step W N → Act (Closing W C) T C (Answer C N) (Reply C N)
  | .arrive => fun c => ⟨.nothing, c.arrive, .empty⟩
  | .call i => fun c => ⟨.nothing, c.call i, .empty⟩
  | .deed d => fun c =>
    let o := Station.act parties d c.station
    ⟨o.answer, { c with station := o.state }, o.trace⟩

/-- All steps, in order, with what they gave back. -/
def run (parties : Collaborators W T C) :
    List (Step W N) → Act (Closing W C) T C (Answer C N) (List (Reply C N))
  | [] => return []
  | step :: steps => do
    let reply ← act parties step
    return reply :: (← run parties steps)

end Closing

end KeyRoute
