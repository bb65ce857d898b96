-- The steps of a session, and what was to be seen of one.
import KeyRoute.Simulation.Hooks
import KeyRoute.Simulation.Cluster
import KeyRoute.Listener.Basic

namespace KeyRoute

/-- Events to deliver, if they could be read. -/
abbrev Delivery := Except Refusal (List Event)

/-- A step of a session. -/
inductive Step where
  | new (cluster : Cluster) (config : Except Refusal Config)
  | owner (key : String) (address : Option Address)
  | defaultOwner (address : Option Address)
  | me (address : Address)
  | fail (call : Failing) (error : Option RouteError)
  | hook (key : String) (program : List (Op Remark))
  /-- An operation on the router. -/
  | operate (op : Op Remark)
  /-- An operation that cannot be done. -/
  | refused (refusal : Refusal)
  | queue (events : Delivery)
  | emit (events : Delivery)
  | drain
  | close
  | isClosed
  | shutdown
  | drop
  | metrics
  | concurrent (threads : Nat) (keys : List String)

/-- What a step gives back. -/
inductive Reply where
  | nothing
  | refused (refusal : Refusal)
  | started (service : String)
  | answer (answer : Answer Handle Remark)
  | verdicts (verdicts : List Verdict)
  | flag (value : Bool)
  | stopped
  | lines (lines : List String)
  | results (results : List (String × Except RouteError Handle))

/-- What was to be seen of a step. -/
structure Report where
  reply : Reply
  trace : Trace Wire Handle (Answer Handle Remark)
  /-- The cached addresses of the router, unless it does not exist or was dropped. -/
  cache : Option (List Address)

end KeyRoute
