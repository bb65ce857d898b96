-- The parties that a router works with: a membership layer, which knows who owns a key and who
-- this node is, a transport channel, and a factory of handles. What they answer depends on a
-- state of their own, which every call may change.
import KeyRoute.Router.Trace
import KeyRoute.Router.Cache

namespace KeyRoute

/-- Collaborators with states `W`, transport clients `T` and handles `C`. -/
structure Collaborators (W T C : Type) where
  /-- The address of the node that owns a key. -/
  lookup : String → W → Except RouteError Address × W
  /-- The address of this node. -/
  whoAmI : W → Except RouteError Address × W
  /-- The service that the channel was opened for. -/
  serviceName : W → String
  /-- A transport client that sends calls for a service to an address. -/
  newClient : String → Address → W → Except RouteError T × W
  /-- A handle that stays in this process. -/
  localClient : W → Except RouteError C × W
  /-- A handle around a transport client. -/
  remoteClient : T → W → Except RouteError C × W

/-- The state of a router and its collaborators. -/
structure State (W C : Type) where
  world : W
  cache : Cache C

namespace Act

variable {W T C A α : Type}

/-- Asks a collaborator. -/
def ask (f : W → α × W) : Act (State W C) T C A α := fun state =>
  ⟨(f state.world).1, { state with world := (f state.world).2 }, .empty⟩

/-- Asks a collaborator and records the call. -/
def call (call : Call T A) (f : W → α × W) : Act (State W C) T C A α := do
  record call
  ask f

end Act

end KeyRoute
