-- What is done with the cache under its lock. A routing call reads it at most twice, the second
-- time with the right to fill the gap; a removal takes a handle out. Each such visit is one step
-- that no other visit can come between, so the visits of a run stand in one order.
import KeyRoute.Metrics.Basic

namespace KeyRoute

/-- How a routing call got its handle. -/
inductive Entry (C : Type) where
  /-- It was in the cache at one of the two looks. -/
  | existing (path : Path) (client : C)
  /-- It was built and put into the cache. -/
  | inserted (client : C)
deriving DecidableEq

namespace Entry

variable {C : Type}

def client : Entry C → C
  | .existing _ client | .inserted client => client

/-- What is counted when a call comes back with its handle. -/
def sample : Entry C → Sample
  | .existing path _ => .hits path
  | .inserted _ => .misses

end Entry

/-- One visit to the cache, with what came of it. -/
inductive Visit (C : Type) where
  /-- A look that found a handle. -/
  | found (path : Path) (address : Address) (client : C)
  /-- A look under the shared lock that found nothing. -/
  | missed (address : Address)
  /-- A second look that found nothing; a handle was built and put there. -/
  | built (address : Address) (client : C)
  /-- A second look that found nothing, and no handle could be built. -/
  | failed (address : Address) (error : RouteError)
  /-- A removal, which maybe found a handle to take out. -/
  | removed (address : Address) (there : Bool)
deriving DecidableEq

end KeyRoute
