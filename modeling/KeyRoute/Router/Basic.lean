-- The router. A key is looked up anew on every call; the handle of its owner comes from the
-- cache, or is built and kept until the owner becomes unreachable. A routing call consists of
-- steps: `resolve` asks for the owner, `read` looks into the cache, `enter` looks again and builds
-- what is missing, which nobody else can do in between, and `leave` counts how the handle was got.
import KeyRoute.Router.Collaborators
import KeyRoute.Config.Basic

namespace KeyRoute

/-- What a router knows from its start on. -/
structure Router where
  /-- The service that remote clients are bound to. -/
  serviceName : String
  metricsEnabled : Bool
deriving DecidableEq

namespace Router

variable {W T C A α : Type}

/-- A new router takes the service name of its configuration, or else that of the channel. -/
def start (parties : Collaborators W T C) (config : Config) (world : W) :
    Router × Trace T C A :=
  let service := config.serviceName.getD (parties.serviceName world)
  let asked := if config.serviceName.isSome then [] else [Call.serviceName]
  (⟨service, config.metricsEnabled⟩, ⟨asked ++ [.subscribe], [.routerStarted service], [], []⟩)

section

variable (router : Router) (parties : Collaborators W T C)

/-- What a router makes of some moves: nothing, if it has metrics disabled. -/
def made (moves : List Move) : List Move := if router.metricsEnabled then moves else []

/-- Moves metrics, if the router has them enabled. -/
def count (moves : List Move) : Act (State W C) T C A Unit := Act.count (router.made moves)

/-- Reports a failed call and hands its error on. -/
def failed (stage : Stage) (notice : Notice) (error : RouteError) :
    Act (State W C) T C A (Except RouteError α) := do
  Act.note [notice]
  router.count [Sample.up (.routeErrors stage)]
  return .error error

/-! ## Routing -/

/-- Asks for the owner of a key. Before it answers, the membership layer may do something on the
router itself. -/
def resolve (key : String) (during : Act (State W C) T C A Unit) :
    Act (State W C) T C A (Except RouteError Address) := do
  Act.record (.lookup key)
  during
  match ← Act.ask (parties.lookup key) with
  | .error e => router.failed .lookup (.lookupFailed key e) e
  | .ok owner => return .ok owner

/-- Looks into the cache under the shared lock. -/
def read (owner : Address) : Act (State W C) T C A (Option (Entry C)) := do
  match ← Act.look (·.cache.find? owner) with
  | some client =>
    Act.visit (.found .fast owner client)
    return some (.existing .fast client)
  | none =>
    Act.visit (.missed owner)
    return none

/-- Comes back with a handle, and counts how it was got. -/
def leave (entry : Entry C) : Act (State W C) T C A C := do
  router.count [entry.sample.up]
  return entry.client

/-- Reads the cache. -/
def probe (owner : Address) : Act (State W C) T C A (Option C) := do
  match ← read owner with
  | some entry => return some (← router.leave entry)
  | none => return none

/-- What a handle for `owner` is on the node `me`. -/
def kindFor (owner me : Address) : Kind := if owner = me then .inProcess else .remote

/-- Makes a handle: the node's own, or one around a new transport client. -/
def make (owner me : Address) : Act (State W C) T C A (Except RouteError C) :=
  match kindFor owner me with
  | .inProcess => Act.call .localClient parties.localClient
  | .remote => do
    match ← Act.call (.newClient router.serviceName owner)
        (parties.newClient router.serviceName owner) with
    | .error e => return .error e
    | .ok transport => Act.call (.remoteClient transport) (parties.remoteClient transport)

/-- Builds a handle for the owner of a key. -/
def build (owner : Address) : Act (State W C) T C A (Except RouteError C) := do
  match ← Act.call .whoAmI parties.whoAmI with
  | .error e => router.failed .whoAmI (.identityUnknown e) e
  | .ok me =>
    match ← router.make parties owner me with
    | .error e => router.failed .construct (.constructionFailed owner e) e
    | .ok client =>
      Act.note [.created (kindFor owner me) owner]
      router.count [Sample.up (.created (kindFor owner me))]
      return .ok client

/-- Looks into the cache again under the exclusive lock, and builds and keeps the handle if it is
still missing. A failure leaves the cache as it was. -/
def enter (owner : Address) : Act (State W C) T C A (Except RouteError (Entry C)) := do
  match ← Act.look (·.cache.find? owner) with
  | some client =>
    Act.visit (.found .recheck owner client)
    return .ok (.existing .recheck client)
  | none =>
    match ← router.build parties owner with
    | .error e =>
      Act.visit (.failed owner e)
      return .error e
    | .ok client =>
      Act.change fun state => { state with cache := state.cache.insert owner client }
      router.count [Sample.up .cachedClients]
      Act.visit (.built owner client)
      return .ok (.inserted client)

/-- Gets a handle that was not there at the first look. -/
def ensure (owner : Address) : Act (State W C) T C A (Except RouteError C) := do
  match ← router.enter parties owner with
  | .error e => return .error e
  | .ok entry => return .ok (← router.leave entry)

/-- The handle of the node that owns a key. -/
def get (key : String) (during : Act (State W C) T C A Unit) :
    Act (State W C) T C A (Except RouteError C) := do
  match ← router.resolve parties key during with
  | .error e => return .error e
  | .ok owner =>
    match ← router.probe owner with
    | some client => return .ok client
    | none => router.ensure parties owner

/-! ## Eviction -/

/-- Takes the handle at an address out of the cache; says whether there was one. -/
def withdraw (address : Address) : Act (State W C) T C A Bool := do
  if ← Act.look (·.cache.contains address) then
    Act.change fun state => { state with cache := state.cache.erase address }
    router.count [Sample.down .cachedClients]
    Act.visit (.removed address true)
    return true
  else
    Act.visit (.removed address false)
    return false

/-- Tells of a handle that was taken out. -/
def report (address : Address) : Act (State W C) T C A Unit := do
  router.count [Sample.up .evictions]
  Act.note [.evicted address]

/-- Drops the handle at an address; says whether there was one. -/
def remove (address : Address) : Act (State W C) T C A Bool := do
  let there ← router.withdraw address
  if there then router.report address
  return there

/-- The address whose handle a change takes away: that of a member that becomes unreachable. A
change of nobody is skipped. -/
def judge (change : Change) : Act (State W C) T C A (Option Address) := do
  if change.malformed then
    Act.note [.changeSkipped change.status]
    return none
  else if change.status.unreachable then
    Act.note [.memberUnreachable change]
    return some change.address
  else return none

/-- A member that becomes unreachable loses its handle. -/
def applyChange (change : Change) : Act (State W C) T C A Unit := do
  match ← judge change with
  | some address =>
    let _ ← router.remove address
  | none => return ()

def applyBatch : List Change → Act (State W C) T C A Unit
  | [] => pure ()
  | change :: batch => do
    router.applyChange change
    applyBatch batch

/-- Changes are applied in their order; an announcement is only noted. -/
def handle : Event → Act (State W C) T C A Unit
  | .changes batch => router.applyBatch batch
  | .announcement content => Act.note [.eventIgnored content]

def handleAll : List Event → Act (State W C) T C A Unit
  | [] => pure ()
  | event :: events => do
    router.handle event
    handleAll events

/-! ## End -/

/-- What the metrics lose when a router is dropped with its cache. -/
def dropMoves (cache : Cache C) : List Move := router.made [⟨.cachedClients, -cache.size⟩]

end

end Router

end KeyRoute
