-- Callers that stop a listener. Each gives the signal, then takes the handle on which one can
-- wait for the task, and waits on it. There is one such handle, so only the first caller who
-- gets to it waits; a caller who finds it taken comes back at once.
import KeyRoute.Listener.Basic

namespace KeyRoute

/-- How far a caller has come. -/
inductive Stopper where
  | called
  | signalled
  | waiting
  | returned
deriving DecidableEq

/-- A listener and the callers that stop it. -/
structure Shutdown where
  listener : Listener
  /-- Whether the handle to wait on is still there. -/
  joinable : Bool
  callers : List Stopper
deriving DecidableEq

namespace Shutdown

/-- The next step of a caller; one who waits goes on when the task has ended. -/
def call (s : Shutdown) (i : Nat) : Shutdown :=
  match s.callers[i]? with
  | some .called =>
    { s with listener := s.listener.signal.1, callers := s.callers.set i .signalled }
  | some .signalled =>
    if s.joinable then { s with joinable := false, callers := s.callers.set i .waiting }
    else { s with callers := s.callers.set i .returned }
  | some .waiting =>
    if s.listener.hasEnded then { s with callers := s.callers.set i .returned } else s
  | some .returned | none => s

/-- One caller alone, from the call to the return, while the task runs as it can. -/
def alone (listener : Listener) (joinable : Bool) : Shutdown × List Emission :=
  let s := (Shutdown.call ⟨listener, joinable, [.called]⟩ 0).call 0
  let (listener, emissions) := s.listener.settle
  (Shutdown.call { s with listener } 0, emissions)

end Shutdown

end KeyRoute
