-- The failures of a routing call. The collaborators make these values and the router hands
-- them on as they are.
namespace KeyRoute

/-- A failure of a routing call. -/
inductive RouteError where
  /-- The membership layer knows no owner of a key. -/
  | lookup (key reason : String)
  /-- The membership layer does not know the address of this node. -/
  | selfIdentity (reason : String)
  /-- A handle or a transport client could not be built. -/
  | construction (address reason : String)
deriving DecidableEq

def RouteError.message : RouteError → String
  | .lookup key reason => "LOOKUP failed for key '" ++ key ++ "': " ++ reason
  | .selfIdentity reason => "WHOAMI failed: " ++ reason
  | .construction address reason => "Could not construct client for " ++ address ++ ": " ++ reason

end KeyRoute
