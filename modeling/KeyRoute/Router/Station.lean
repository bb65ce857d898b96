-- A router at work: the state that it shares with its collaborators, and the listener that
-- brings it the events of the membership layer. The listener holds on to nothing; when the router
-- is dropped, its cache goes, and the listener ends when it next looks.
import KeyRoute.Listener.Shutdown
import KeyRoute.Router.Program

namespace KeyRoute

/-- A router with its state and its listener. -/
structure Station (W C : Type) where
  router : Router
  state : State W C
  listener : Listener
  /-- Whether nobody has waited for the end of the listener yet. -/
  joinable : Bool

namespace Station

variable {W T C A α : Type}

/-- A new router: it subscribes to the membership layer, whose channel takes so many events at a
time, and spawns its listener. -/
def start (parties : Collaborators W T C) (config : Config) (world : W) (capacity : Nat) :
    Station W C × Trace T C A :=
  let (router, trace) := Router.start parties config world
  (⟨router, ⟨world, .empty⟩, .spawn capacity, true⟩, trace)

/-- Whether the router has not been dropped. -/
def live (station : Station W C) : Bool := station.listener.handlerAlive

/-- An action on the state of the router. -/
def onState (action : Router → Act (State W C) T C A α) : Act (Station W C) T C A α :=
  fun station =>
    let o := action station.router station.state
    ⟨o.answer, { station with state := o.state }, o.trace⟩

/-- What others do to the listener. -/
def onListener (f : Listener → Listener × α) : Act (Station W C) T C A α := fun station =>
  ⟨(f station.listener).2, { station with listener := (f station.listener).1 }, .empty⟩

/-! ## Events -/

/-- What an emission of the listener does: an event is handled, the rest is only logged. -/
def follow : Emission → Act (Station W C) T C A Unit
  | .handled event => onState fun router => router.handle event
  | emission => Act.note emission.log

def followAll : List Emission → Act (Station W C) T C A Unit
  | [] => pure ()
  | emission :: emissions => do
    follow emission
    followAll emissions

/-- Lets the listener run until it waits. -/
def settle : Act (Station W C) T C A Unit := do
  followAll (← onListener Listener.settle)

/-- Puts events on the channel. -/
def queue (events : List Event) : Act (Station W C) T C A (List Verdict) :=
  onListener (·.sendAll events)

/-- The membership layer drops the sending end; the events that wait are still delivered. -/
def dropSender : Act (Station W C) T C A Unit := onListener fun l => (l.dropSender, ())

/-! ## The end -/

/-- Stops the listener and waits for it. -/
def shutdown : Act (Station W C) T C A Unit := do
  followAll (← fun station =>
    let (s, emissions) := Shutdown.alone station.listener station.joinable
    ⟨emissions, { station with listener := s.listener, joinable := s.joinable }, .empty⟩)

/-- The router is dropped, and its cache with it; the listener can see that it is gone. -/
def drop : Act (Station W C) T C A Unit := do
  onState fun router state =>
    ⟨(), { state with cache := .empty }, ⟨[], [], router.dropMoves state.cache, []⟩⟩
  onListener fun l => (l.dropHandler.dropSignal, ())

end Station

end KeyRoute
