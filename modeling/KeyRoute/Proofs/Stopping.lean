-- Calls that shut a router down. There is one handle on which to wait for the listener, and the
-- call that takes it waits for all. So when all calls are back, the listener has ended, and nothing
-- that comes through the channel is handled any more; but a call that finds the handle taken comes
-- back at once, while the listener may still have a step to take.
import KeyRoute.Proofs.Settling
import KeyRoute.Router.Closing

namespace KeyRoute

variable {W T C N : Type}

/-! ## A task that is to end -/

namespace Listener

variable {l : Listener}

end Listener

namespace Course

end Course

/-! ## A router and its listener -/

namespace Station

variable (parties : Collaborators W T C)

end Station

/-! ## One call -/

namespace Shutdown

/-- All that a step of a call can be. -/
inductive Called (s : Shutdown) (i : Nat) : Shutdown → Prop
  | signalled (h : s.callers[i]? = some .called) :
      Called s i { s with listener := s.listener.signal.1, callers := s.callers.set i .signalled }
  /-- It takes the handle, and waits. -/
  | took (h : s.callers[i]? = some .signalled) (hthere : s.joinable = true) :
      Called s i { s with joinable := false, callers := s.callers.set i .waiting }
  /-- It finds the handle taken, and comes back. -/
  | missed (h : s.callers[i]? = some .signalled) (hgone : s.joinable = false) :
      Called s i { s with callers := s.callers.set i .returned }
  | woke (h : s.callers[i]? = some .waiting) (hended : s.listener.hasEnded = true) :
      Called s i { s with callers := s.callers.set i .returned }
  /-- It has to wait, or it is not under way. -/
  | idle : Called s i s

theorem called (s : Shutdown) (i : Nat) : s.Called i (s.call i) := by
  unfold call
  split
  · exact .signalled (by assumption)
  · split
    · exact .took (by assumption) (by assumption)
    · rename_i hgone
      exact .missed (by assumption) (Bool.eq_false_iff.mpr hgone)
  · split
    · exact .woke (by assumption) (by assumption)
    · exact .idle
  · exact .idle
  · exact .idle

end Shutdown

namespace Closing

/-! ## Many calls -/

section

variable (parties : Collaborators W T C)

end

end Closing

end KeyRoute
