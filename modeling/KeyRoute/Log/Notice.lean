-- The log lines of the library as data: what was noticed, at which level, and where. A filter
-- picks among them; nothing else looks at them.
import KeyRoute.Filter.Basic
import KeyRoute.Member.Event
import KeyRoute.Router.Error

namespace KeyRoute

/-- How a handle reaches its node. -/
inductive Kind where
  /-- It stays in this process. -/
  | inProcess
  | remote
deriving DecidableEq

def Kind.name : Kind → String
  | .inProcess => "local"
  | .remote => "remote"

/-- Something worth a log line. -/
inductive Notice where
  | configLoaded (path : String)
  | routerStarted (service : String)
  | lookupFailed (key : String) (error : RouteError)
  | identityUnknown (error : RouteError)
  | created (kind : Kind) (address : Address)
  | constructionFailed (address : Address) (error : RouteError)
  | evicted (address : Address)
  | changeSkipped (status : Status)
  | memberUnreachable (change : Change)
  | eventIgnored (content : Announcement)
  | listenerStarted
  | streamClosed
  | routerGone
  | listenerStopped
deriving DecidableEq

namespace Notice

def level : Notice → Level
  | .identityUnknown _ | .constructionFailed _ _ | .changeSkipped _ => .warn
  | .configLoaded _ | .routerStarted _ | .created _ _ | .evicted _ | .streamClosed
  | .listenerStopped => .info
  | .lookupFailed _ _ | .memberUnreachable _ | .eventIgnored _ | .listenerStarted
  | .routerGone => .debug

/-- The target of the router's own lines. -/
def routerTarget : String := "ringroute::core::router"

def target : Notice → String
  | .configLoaded _ => "ringroute::config"
  | .listenerStarted | .streamClosed | .routerGone | .listenerStopped =>
    "ringroute::core::router::listener"
  | _ => routerTarget

def message : Notice → String
  | .configLoaded path => "Loaded router configuration from " ++ path
  | .routerStarted service => "Client router started for service '" ++ service ++ "'."
  | .lookupFailed key error => "Lookup for key '" ++ key ++ "' failed: " ++ error.message
  | .identityUnknown error => "Could not determine local address: " ++ error.message
  | .created kind address => "Created " ++ kind.name ++ " client for " ++ address
  | .constructionFailed address error =>
    "Failed to construct client for " ++ address ++ ": " ++ error.message
  | .evicted address => "Evicted cached client for " ++ address
  | .changeSkipped status =>
    "Skipping malformed membership change with empty address (status " ++ status.name ++ ")."
  | .memberUnreachable change =>
    "Member " ++ change.address ++ " is now " ++ change.status.name ++ " (incarnation " ++
      toString change.incarnation.toNat ++ ")."
  | .eventIgnored content => "Ignoring membership event: " ++ content.description
  | .listenerStarted => "Membership listener task started."
  | .streamClosed => "Membership event stream closed. Listener exiting."
  | .routerGone => "Router dropped. Membership listener exiting."
  | .listenerStopped => "Membership listener shutting down."

/-- The line that is written. -/
def line (notice : Notice) : String :=
  notice.level.label ++ " " ++ notice.target ++ ": " ++ notice.message

end Notice

/-- Whether a notice passes a filter. -/
def Filter.passes (filter : Filter) (notice : Notice) : Bool :=
  filter.admits notice.target notice.level

/-- The log as it is seen through a filter: the notices that pass, in their order. -/
def Filter.seen (filter : Filter) (log : List Notice) : List Notice := log.filter filter.passes

end KeyRoute
