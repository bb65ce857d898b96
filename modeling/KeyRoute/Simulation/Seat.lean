-- A router of a session with its collaborators, and the steps that concern it alone.
import KeyRoute.Router.Station
import KeyRoute.Simulation.Rush
import KeyRoute.Simulation.Step

namespace KeyRoute

/-- A router of a session. -/
structure Seat where
  station : Station Cluster Handle
  hooks : Hooks

namespace Seat

/-- Actions on the router of a seat. -/
abbrev Work := Act Seat Wire Handle (Answer Handle Remark)

variable {α : Type}

def onStation (action : Act (Station Cluster Handle) Wire Handle (Answer Handle Remark) α) :
    Work α :=
  fun seat =>
    let o := action seat.station
    ⟨o.answer, { seat with station := o.state }, o.trace⟩

/-- Changes the script. -/
def script (f : Cluster → Cluster) : Work Reply := do
  onStation (Station.onState fun _ => Act.change fun state => { state with world := f state.world })
  return .nothing

/-- Runs an operation with the hooks that it will meet. -/
def operate (op : Op Remark) : Work Reply := do
  let hooks ← Act.look (·.hooks)
  let (ops, left) := Hooks.arm hooks.length hooks [op]
  Act.change fun seat => { seat with hooks := left }
  let answers ← onStation (Station.onState fun router => router.runAll Cluster.parties ops)
  return answers.head?.elim .nothing .answer

/-- Sets what the next look-up of a key does on the router. -/
def hook (key : String) (program : List (Op Remark)) : Work Reply := do
  Act.change fun seat => { seat with hooks := seat.hooks.set key program }
  return .nothing

/-- Whether the listener has ended, as far as a sender can tell. -/
def isClosed : Work Reply := do
  let listener ← Act.look (·.station.listener)
  return if listener.senderAlive then .flag listener.hasEnded else .nothing

/-- Lets threads ask for keys, with the hooks that they will meet. -/
def concurrent (threads : Nat) (keys : List String) : Work Reply := do
  let hooks ← Act.look (·.hooks)
  let rush ← onStation (Station.onState fun router state =>
    let o := Rush.finish router threads keys (.start state hooks threads keys)
    ⟨o.state, o.state.crowd.state, o.trace⟩)
  Act.change fun seat => { seat with hooks := rush.hooks }
  return .results (rush.crowd.returned.map fun back => (back.key, back.result))

/-- The cached addresses, unless the router was dropped. -/
def shown (seat : Seat) : Option (List Address) :=
  if seat.station.live then some seat.station.state.cache.addresses else none

end Seat

end KeyRoute
