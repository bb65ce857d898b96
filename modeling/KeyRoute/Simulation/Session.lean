-- Sessions: routers by name, each with collaborators of its own that follow a script, and steps
-- that work on them. All routers move the same metrics. A listener runs only where a step lets all
-- of them run, and then they do so in the order in which they got something to do. A step is
-- reported with all that was to be seen of it.
import KeyRoute.Simulation.Seat
import KeyRoute.Metrics.Text

namespace KeyRoute

/-- The routers of a session by name, with the metrics that they all move. -/
structure Session where
  seats : List (String × Seat)
  /-- The names of the routers whose listeners have something to do, the first one first. -/
  awake : List String
  registry : Metrics.Registry
  /-- Whether threads have run, so that the split of the hits is not known any more. -/
  crowded : Bool

namespace Session

/-- Actions on a session. -/
abbrev Work := Act Session Wire Handle (Answer Handle Remark)

variable {α : Type}

/-- No routers, and metrics from zero. -/
def start : Session := ⟨[], [], .empty, false⟩

def find? (session : Session) (name : String) : Option Seat := session.seats.lookup name

/-- Puts a router in its place, or after the others. -/
def put (session : Session) (name : String) (seat : Seat) : Session :=
  if (session.find? name).isSome then
    { session with
      seats := session.seats.map fun entry => if entry.1 = name then (name, seat) else entry }
  else { session with seats := session.seats ++ [(name, seat)] }

/-- An action on the router of a name, and something else if there is none. -/
def onSeat (name : String) (work : Seat.Work α) (otherwise : α) : Work α := fun session =>
  match session.find? name with
  | none => ⟨otherwise, session, .empty⟩
  | some seat =>
    let o := work seat
    ⟨o.answer, session.put name o.state, o.trace⟩

def onStation (name : String)
    (action : Act (Station Cluster Handle) Wire Handle (Answer Handle Remark) Unit) : Work Unit :=
  onSeat name (Seat.onStation action) ()

/-! ## Listeners -/

/-- The listener of a router has something to do. -/
def wake (name : String) : Work Unit :=
  Act.change fun session =>
    if session.awake.contains name then session
    else { session with awake := session.awake ++ [name] }

def settleAll : List String → Work Unit
  | [] => pure ()
  | name :: names => do
    onStation name Station.settle
    settleAll names

/-- Lets all listeners run until they wait. -/
def settle : Work Unit := do
  settleAll (← Act.look (·.awake))
  Act.change fun session => { session with awake := [] }

/-- Puts events on the channel of a router, if they could be read. -/
def queue (name : String) : Delivery → Work Reply
  | .error refusal => return .refused refusal
  | .ok events => do
    let verdicts ← onSeat name (Seat.onStation (Station.queue events)) []
    if verdicts.contains .sent then wake name
    return .verdicts verdicts

/-! ## Steps -/

/-- Starts a router and lets its listener run. -/
def new (name : String) (cluster : Cluster) : Except Refusal Config → Work Reply
  | .error refusal => return .refused refusal
  | .ok config => do
    let service ← fun session =>
      let (station, trace) := Station.start Cluster.parties config cluster
        Cluster.channelCapacity
      ⟨station.router.serviceName, session.put name ⟨station, []⟩, trace⟩
    wake name
    settle
    return .started service

/-- Whether a step works on the router itself, so that it cannot be taken any more once the
router was dropped. -/
def needsRouter : Step → Bool
  | .operate _ | .refused _ | .shutdown | .concurrent .. => true
  | _ => false

/-- A step on the router of a name, which is there. -/
def work (name : String) : Step → Work Reply
  | .owner key address => onSeat name (Seat.script (·.setOwner key address)) .nothing
  | .defaultOwner address =>
    onSeat name (Seat.script fun cluster => { cluster with defaultOwner := address }) .nothing
  | .me address => onSeat name (Seat.script fun cluster => { cluster with me := address }) .nothing
  | .fail call error => onSeat name (Seat.script (·.setFailure call error)) .nothing
  | .hook key program => onSeat name (Seat.hook key program) .nothing
  | .operate op => onSeat name (Seat.operate op) .nothing
  | .refused refusal => return .refused refusal
  | .queue events => queue name events
  | .emit (.error refusal) => return .refused refusal
  | .emit (.ok events) => do
    let reply ← queue name (.ok events)
    settle
    return reply
  | .drain => do
    settle
    return .nothing
  | .close => do
    onStation name Station.dropSender
    wake name
    settle
    return .nothing
  | .isClosed => onSeat name Seat.isClosed .nothing
  | .shutdown => do
    settle
    onStation name Station.shutdown
    return .stopped
  | .drop => do
    settle
    let live ← onSeat name (Act.look (·.station.live)) false
    if live then
      onStation name Station.drop
      wake name
    settle
    return .flag live
  | .concurrent threads keys => do
    Act.change fun session => { session with crowded := true }
    onSeat name (Seat.concurrent threads keys) .nothing
  | .new cluster config => new name cluster config
  | .metrics => do
    let session ← Act.look id
    if session.crowded then return .refused .noMetricsText
    else return .lines session.registry.lines

/-- Why a step cannot be taken, if it cannot. -/
def refusal? (session : Session) (name : String) (step : Step) : Option Refusal :=
  match step, session.find? name with
  | .metrics, _ => none
  | .new .., some _ => some .nameUsed
  | .new .., none => none
  | _, none => some .noSuchRouter
  | step, some seat =>
    if needsRouter step && !seat.station.live then some .routerDropped else none

/-- A step on the router of a name, with its report. -/
def step (session : Session) (name : String) (step : Step) : Session × Report :=
  let o := match session.refusal? name step with
    | some refusal => (pure (.refused refusal) : Work Reply) session
    | none => work name step session
  ({ o.state with registry := session.registry.record o.trace.moves },
    ⟨o.answer, o.trace, (o.state.find? name).bind (·.shown)⟩)

/-- All steps, with their reports. -/
def run (session : Session) : List (String × Step) → Session × List Report
  | [] => (session, [])
  | (name, s) :: steps =>
    let (session, report) := session.step name s
    let (session, reports) := session.run steps
    (session, report :: reports)

end Session

end KeyRoute
