-- Operations on a router as data, so that programs of them can be run and compared. A routing
-- call carries the program that the membership layer runs on the same router during the look-up,
-- and that program may route again, to any finite depth.
import KeyRoute.Router.Basic

namespace KeyRoute

/-- An operation on a router. `N` are remarks of the caller. -/
inductive Op (N : Type) where
  | get (key : String) (during : List (Op N))
  | remove (address : Address)
  | handle (events : List Event)
  | contains (address : Address)
  | size
  | addresses
  | service
  /-- Does nothing and comes back as its own answer. -/
  | remark (content : N)

/-- The answer of an operation. -/
inductive Answer (C N : Type) where
  | got (result : Except RouteError C)
  | removed (found : Bool)
  | handled
  | contained (found : Bool)
  | sized (size : Nat) (isEmpty : Bool)
  | listed (addresses : List Address)
  | service (name : String)
  | remark (content : N)

namespace Router

variable {W T C N : Type} (router : Router) (parties : Collaborators W T C)

mutual

/-- Runs an operation. -/
def run : Op N → Act (State W C) T C (Answer C N) (Answer C N)
  | .get key during => do
    return .got (← router.get parties key (runDuring during))
  | .remove address => do
    return .removed (← router.remove address)
  | .handle events => do
    router.handleAll events
    return .handled
  | .contains address => return .contained (← Act.look (·.cache.contains address))
  | .size => do
    let size ← Act.look (·.cache.size)
    return .sized size (size == 0)
  | .addresses => return .listed (← Act.look (·.cache.addresses))
  | .service => return .service router.serviceName
  | .remark content => return .remark content

/-- Runs the program of a look-up; each answer goes to the membership layer. -/
def runDuring : List (Op N) → Act (State W C) T C (Answer C N) Unit
  | [] => pure ()
  | op :: ops => do
    let answer ← run op
    Act.record (.inner answer)
    runDuring ops

end

/-- Runs operations one after the other. -/
def runAll : List (Op N) → Act (State W C) T C (Answer C N) (List (Answer C N))
  | [] => return []
  | op :: ops => do
    let answer ← router.run parties op
    return answer :: (← runAll ops)

end Router

end KeyRoute
