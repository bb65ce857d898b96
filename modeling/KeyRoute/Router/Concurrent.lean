-- Callers on one router. A routing call looks its key up, visits the cache once or twice, and comes
-- back, one step at a time; a removal visits the cache and then tells of what it found; an event
-- becomes one removal after the other. Between two steps any other thread may take one, another
-- caller may come, and the collaborators may change, so every way in which calls can overlap is a
-- list of such stirs.
import KeyRoute.Router.Basic

namespace KeyRoute

/-- How far a routing call has come. -/
inductive Flight (C : Type) where
  | called (key : String)
  /-- The owner of the key is known. -/
  | resolved (key : String) (owner : Address)
  /-- The handle was not found under the shared lock. -/
  | missed (key : String) (owner : Address)
  /-- The call has its handle or its error and has only to come back. -/
  | leaving (key : String) (owner : Option Address) (outcome : Except RouteError (Entry C))

/-- Something that a thread has still to do. -/
inductive Job (C : Type) where
  | get (flight : Flight C)
  | remove (address : Address)
  /-- To tell of a handle that was taken out. -/
  | report (address : Address)
  | handle (event : Event)
  | apply (change : Change)

/-- Nothing has been done of the job yet. -/
def Job.fresh {C : Type} : Job C → Bool
  | .get (.called _) | .remove _ | .handle _ | .apply _ => true
  | .get _ | .report _ => false

/-- What a caller can ask of a router. -/
inductive Request where
  | get (key : String)
  | remove (address : Address)
  | handle (event : Event)
deriving DecidableEq

def Request.job {C : Type} : Request → Job C
  | .get key => .get (.called key)
  | .remove address => .remove address
  | .handle event => .handle event

/-- A routing call that came back. -/
structure Return (C : Type) where
  key : String
  /-- The owner of the key, unless the look-up failed. -/
  owner : Option Address
  result : Except RouteError C

/-- A thread: what it has still to do, the first job maybe begun, and the routing calls that came
back to it, in their order. -/
structure Thread (C : Type) where
  jobs : List (Job C)
  returned : List (Return C)

/-- A thread that has not begun. -/
def Thread.start {C : Type} (requests : List Request) : Thread C := ⟨requests.map Request.job, []⟩

/-- Threads on one router. -/
structure Crowd (W C : Type) where
  state : State W C
  threads : List (Thread C)

/-- What may happen next. -/
inductive Stir (W : Type) where
  /-- The thread with this number takes a step. -/
  | tick (thread : Nat)
  /-- Another caller comes. -/
  | join (requests : List Request)
  /-- The collaborators change on their own. -/
  | drift (world : W)

namespace Router

variable {W T C A : Type} (router : Router) (parties : Collaborators W T C)

/-- One step of a routing call: what it leaves of the call, and maybe its return. -/
def fly : Flight C → Act (State W C) T C A (Thread C)
  | .called key => do
    match ← router.resolve parties key (pure ()) with
    | .error e => return ⟨[.get (.leaving key none (.error e))], []⟩
    | .ok owner => return ⟨[.get (.resolved key owner)], []⟩
  | .resolved key owner => do
    match ← read owner with
    | some entry => return ⟨[.get (.leaving key (some owner) (.ok entry))], []⟩
    | none => return ⟨[.get (.missed key owner)], []⟩
  | .missed key owner => do
    let outcome ← router.enter parties owner
    return ⟨[.get (.leaving key (some owner) outcome)], []⟩
  | .leaving key owner (.error e) => return ⟨[], [⟨key, owner, .error e⟩]⟩
  | .leaving key owner (.ok entry) => do
    let client ← router.leave entry
    return ⟨[], [⟨key, owner, .ok client⟩]⟩

/-- One step of a job: what it leaves to be done, and the routing call that came back. -/
def work : Job C → Act (State W C) T C A (Thread C)
  | .get flight => router.fly parties flight
  | .remove address => do
    let there ← router.withdraw address
    return ⟨if there then [.report address] else [], []⟩
  | .report address => do
    router.report address
    return ⟨[], []⟩
  | .handle (.changes batch) => return ⟨batch.map .apply, []⟩
  | .handle (.announcement content) => do
    Act.note [.eventIgnored content]
    return ⟨[], []⟩
  | .apply change => do
    match ← judge change with
    | some address => return ⟨[.remove address], []⟩
    | none => return ⟨[], []⟩

end Router

/-- The key that a thread looks up in its next step, if it does. -/
def Thread.asks? {C : Type} (thread : Thread C) : Option String :=
  match thread.jobs with
  | .get (.called key) :: _ => some key
  | _ => none

/-- One step of a thread. -/
def Thread.step {W T C A : Type} (router : Router) (parties : Collaborators W T C)
    (thread : Thread C) : Act (State W C) T C A (Thread C) :=
  match thread.jobs with
  | [] => pure thread
  | job :: jobs => do
    let rest ← router.work parties job
    return ⟨rest.jobs ++ jobs, thread.returned ++ rest.returned⟩

namespace Crowd

variable {W T C A : Type}

/-- Threads that have not begun. -/
def start (state : State W C) (requests : List (List Request)) : Crowd W C :=
  ⟨state, requests.map Thread.start⟩

/-- An action on the state of the router. -/
def onState (action : Act (State W C) T C A Unit) : Act (Crowd W C) T C A Unit := fun crowd =>
  let o := action crowd.state
  ⟨(), { crowd with state := o.state }, o.trace⟩

section

variable (router : Router) (parties : Collaborators W T C)

/-- A step of the thread with number `i`; no such thread, no step. -/
def tick (i : Nat) : Act (Crowd W C) T C A Unit := fun crowd =>
  match crowd.threads[i]? with
  | none => ⟨(), crowd, .empty⟩
  | some thread =>
    let o := thread.step router parties crowd.state
    ⟨(), ⟨o.state, crowd.threads.set i o.answer⟩, o.trace⟩

def stir : Stir W → Act (Crowd W C) T C A Unit
  | .tick i => tick router parties i
  | .join requests =>
    Act.change fun crowd => { crowd with threads := crowd.threads ++ [.start requests] }
  | .drift world => onState (Act.change fun state => { state with world := world })

/-- All stirs, in order. -/
def run : List (Stir W) → Act (Crowd W C) T C A Unit
  | [] => pure ()
  | s :: stirs => do
    stir router parties s
    run stirs

end

/-- Whether no thread has anything left to do. -/
def finished (crowd : Crowd W C) : Bool := crowd.threads.all (·.jobs.isEmpty)

/-- The routing calls that came back. -/
def returned (crowd : Crowd W C) : List (Return C) := crowd.threads.flatMap (·.returned)

/-- All threads take turns, for so many rounds. -/
def turns (threads rounds : Nat) : List Nat := (List.replicate rounds (List.range threads)).flatten

end Crowd

end KeyRoute
