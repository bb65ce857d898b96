-- Routers at one site. Each has collaborators and a listener of its own; all that they share is
-- the metrics. One thing happens at a time, at one of them: an operation, whose look-ups may run
-- others, an event for its channel, some steps of its listener, or its end.
import KeyRoute.Router.Station
import KeyRoute.Listener.Course

namespace KeyRoute

/-- The lines that a router wrote itself, without those of its listener. -/
def Trace.ownLog {T C A : Type} (trace : Trace T C A) : List Notice :=
  trace.log.filter fun notice => notice.target == Notice.routerTarget

namespace Station

variable {W T C A N : Type}

/-- The listener of a router has not ended, and nobody has told it to stop. -/
def listening (station : Station W C) : Bool :=
  station.live && !station.listener.hasEnded && !station.listener.told

/-- Something that happens at a router. -/
inductive Deed (W N : Type) where
  | operate (op : Op N)
  /-- The collaborators change on their own. -/
  | drift (world : W)
  /-- An event is put on the channel. -/
  | send (event : Event)
  /-- The listener takes some steps, as far as they are possible. -/
  | listen (turns : List Turn)
  /-- The sending end of the channel goes. -/
  | close
  /-- The listener is told to stop. A caller who waits for that lets it take steps after this. -/
  | signal
  | drop

/-- What is given back. -/
inductive Reply (C N : Type) where
  | nothing
  | answer (answer : Answer C N)
  | verdict (verdict : Verdict)
  | flag (value : Bool)
  | started (service : String)
  /-- There is no such router, or none any more, or there is one already. -/
  | refused

/-- Lets the listener take some steps. -/
def listen (turns : List Turn) : Act (Station W C) T C A Unit := do
  followAll (← onListener (·.work turns))

/-- Events are put on the channel and the listener takes steps, in some order; gives the events
that the channel took. -/
def feed : List (Event ⊕ List Turn) → Act (Station W C) T C A (List Event)
  | [] => return []
  | .inl event :: more => do
    let verdict ← onListener (·.send event)
    let rest ← feed more
    return if verdict = .sent then event :: rest else rest
  | .inr turns :: more => do
    listen turns
    feed more

/-- An action on a router that was not dropped. -/
def ifLive (action : Act (Station W C) T C A (Reply C N)) :
    Act (Station W C) T C A (Reply C N) := do
  if ← Act.look live then action else return .refused

def act (parties : Collaborators W T C) :
    Deed W N → Act (Station W C) T C (Answer C N) (Reply C N)
  | .operate op => ifLive do return .answer (← onState fun router => router.run parties op)
  | .drift world => do
    onState fun _ => Act.change fun state => { state with world := world }
    return .nothing
  | .send event => return .verdict (← onListener (·.send event))
  | .listen turns => do
    listen turns
    return .nothing
  | .close => do
    dropSender
    return .nothing
  | .signal => ifLive do return .flag (← onListener (·.signal))
  | .drop => ifLive do
    drop
    return .nothing

/-- The events that a router handles if its listener takes these steps. -/
def heard (station : Station W C) (turns : List Turn) : List Event :=
  Emission.events (station.listener.work turns).2

/-- What is done in place of a deed if events are handed over by calls: the channel is not used, and
what the listener would handle is handed over. -/
def directly (station : Station W C) : Deed W N → Deed W N
  | .listen turns => .operate (.handle (station.heard turns))
  | .send _ | .close | .signal => .operate (.handle [])
  | d => d

end Station

/-- A router of a site, with its collaborators. -/
structure Branch (W T C : Type) where
  parties : Collaborators W T C
  station : Station W C

/-- The routers of a site, by number. -/
def Site (W T C : Type) : Type := Nat → Option (Branch W T C)

namespace Site

open Station (Reply)

variable {W T C N : Type}

/-- What may happen at a place of a site: a router is started there, or something happens at the one
that is there. -/
inductive Turn (W T C N : Type) where
  | found (parties : Collaborators W T C) (config : Config) (world : W) (capacity : Nat)
  | deed (d : Station.Deed W N)

/-- What was to be seen of a turn. -/
structure Report (T C N : Type) where
  reply : Reply C N
  trace : Trace T C (Answer C N)
  /-- What the router holds after it, unless there is none or it was dropped. -/
  cache : Option (Cache C)

/-- No routers. -/
def empty : Site W T C := fun _ => none

/-- A router is put in its place. -/
def put (site : Site W T C) (n : Nat) (branch : Branch W T C) : Site W T C :=
  fun m => if m = n then some branch else site m

/-- A turn at the place with number `n`. -/
def act (n : Nat) : Turn W T C N → Act (Site W T C) T C (Answer C N) (Reply C N)
  | .found parties config world capacity => fun site =>
    match site n with
    | some _ => ⟨.refused, site, .empty⟩
    | none =>
      let (station, trace) := Station.start parties config world capacity
      ⟨.started station.router.serviceName, site.put n ⟨parties, station⟩, trace⟩
  | .deed d => fun site =>
    match site n with
    | none => ⟨.refused, site, .empty⟩
    | some branch =>
      let o := Station.act branch.parties d branch.station
      ⟨o.answer, site.put n { branch with station := o.state }, o.trace⟩

/-- What the router in a place holds, unless there is none or it was dropped. -/
def cache? (site : Site W T C) (n : Nat) : Option (Cache C) :=
  (site n).bind fun branch =>
    if branch.station.live then some branch.station.state.cache else none

/-- A turn with its report. -/
def step (site : Site W T C) (n : Nat) (t : Turn W T C N) : Site W T C × Report T C N :=
  let o := act n t site
  (o.state, ⟨o.answer, o.trace, o.state.cache? n⟩)

/-- All turns, each at its place, with their reports. -/
def run (site : Site W T C) : List (Nat × Turn W T C N) → Site W T C × List (Report T C N)
  | [] => (site, [])
  | (n, t) :: turns =>
    let (site, report) := site.step n t
    let (site, reports) := site.run turns
    (site, report :: reports)

end Site

/-! ## The metrics that are shared -/

/-- The routers of a site, with the registry that all of them move. -/
structure MeteredSite (W T C : Type) where
  site : Site W T C
  registry : Metrics.Registry

namespace MeteredSite

variable {W T C N : Type}

/-- A turn with its report: one router moves on, and its moves go into the registry. -/
def step (metered : MeteredSite W T C) (n : Nat) (t : Site.Turn W T C N) :
    MeteredSite W T C × Site.Report T C N :=
  let (site, report) := metered.site.step n t
  (⟨site, metered.registry.record report.trace.moves⟩, report)

/-- All turns, each at its place, with their reports. -/
def run (metered : MeteredSite W T C) :
    List (Nat × Site.Turn W T C N) → MeteredSite W T C × List (Site.Report T C N)
  | [] => (metered, [])
  | (n, t) :: turns =>
    let (metered, report) := metered.step n t
    let (metered, reports) := metered.run turns
    (metered, report :: reports)

end MeteredSite

namespace Site

open Station (Reply)

variable {W T C N : Type}

/-! ## What is watched -/

/-- The same turn, for a router that may count other things and whose program may log other things;
it is bound to the same service. -/
inductive Turn.Akin : Turn W T C N → Turn W T C N → Prop
  | found (parties : Collaborators W T C) {config config' : Config} (world : W) (capacity : Nat)
      (h : config.serviceName = config'.serviceName) :
      Akin (.found parties config world capacity) (.found parties config' world capacity)
  | deed (d : Station.Deed W N) : Akin (.deed d) (.deed d)

/-- A report as it is seen with a log filter installed. -/
def Report.under (filter : Filter) (report : Report T C N) : Report T C N :=
  { report with trace := { report.trace with log := filter.seen report.trace.log } }

/-- What is seen of a run with a log filter installed. -/
def watch (filter : Filter) (turns : List (Nat × Turn W T C N)) : List (Report T C N) :=
  ((empty : Site W T C).run turns).2.map (Report.under filter)

/-- What a turn gave back, the calls that it made, and what its router holds after it. -/
def Report.routing (report : Report T C N) :
    Reply C N × List (Call T (Answer C N)) × Option (Cache C) :=
  (report.reply, report.trace.calls, report.cache)

/-- The log of a run, in order. -/
def logged (reports : List (Report T C N)) : List Notice := reports.flatMap (·.trace.log)

/-- What a run did to the metrics. -/
def moved (reports : List (Report T C N)) : List Move := reports.flatMap (·.trace.moves)

/-- Whether there is a router in a place that has metrics enabled. -/
def counts (site : Site W T C) (n : Nat) : Bool :=
  (site n).any (·.station.router.metricsEnabled)

/-! ## Events without the channel -/

/-- A turn that hands over events by a call, and so has no use for the channel. -/
def directly (site : Site W T C) (n : Nat) : Turn W T C N → Turn W T C N
  | .deed d => .deed ((site n).elim d (·.station.directly d))
  | t => t

/-- The turns of a run, with calls in place of the channel and its listener: each call hands over
what the listener handled. -/
def direct (site : Site W T C) : List (Nat × Turn W T C N) → List (Nat × Turn W T C N)
  | [] => []
  | (n, t) :: turns => (n, site.directly n t) :: (site.step n t).1.direct turns

/-- What a turn did to its router and the metrics, and what the router wrote of it. -/
def Report.own (report : Report T C N) :
    Option (Cache C) × List Move × List Notice × List (Call T (Answer C N)) :=
  (report.cache, report.trace.moves, report.trace.ownLog, report.trace.calls)

end Site

end KeyRoute
