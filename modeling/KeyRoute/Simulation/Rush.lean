-- Threads that all ask a router at once, while its membership layer has operations to run on it
-- during the first look-ups of some keys. Nobody can tell in which order the threads did what, so
-- those operations may as well run right before the look-up that they belong to.
import KeyRoute.Router.Concurrent
import KeyRoute.Simulation.Cluster
import KeyRoute.Simulation.Hooks

namespace KeyRoute

/-- Threads on a router, and the hooks that no look-up has met yet. -/
structure Rush where
  crowd : Crowd Cluster Handle
  hooks : Hooks

namespace Rush

/-- Actions on a rush. -/
abbrev Work := Act Rush Wire Handle (Answer Handle Remark)

/-- So many threads that have not begun. Each asks for all keys, from another one on. -/
def start (state : State Cluster Handle) (hooks : Hooks) (threads : Nat) (keys : List String) :
    Rush :=
  ⟨.start state ((List.range threads).map fun i => (keys.rotateLeft i).map .get), hooks⟩

def onCrowd (action : Act (Crowd Cluster Handle) Wire Handle (Answer Handle Remark) Unit) :
    Work Unit := fun rush =>
  let o := action rush.crowd
  ⟨(), { rush with crowd := o.state }, o.trace⟩

/-- The hook that the next step of a thread meets: its key and its operations. -/
def hookAhead? (rush : Rush) (i : Nat) : Option (String × List (Op Remark)) := do
  let thread ← rush.crowd.threads[i]?
  let key ← thread.asks?
  return (key, ← rush.hooks.lookup key)

/-- The hook of a key is run on the router, with all those that its own look-ups meet. -/
def meet (router : Router) (key : String) (program : List (Op Remark)) : Work Unit := do
  let hooks ← Act.look (·.hooks)
  let (ops, left) := Hooks.arm hooks.length (hooks.unset key) program
  Act.change fun rush => { rush with hooks := left }
  onCrowd (Crowd.onState (router.runDuring Cluster.parties ops))

/-- A step of the thread with number `i`. -/
def tick (router : Router) (i : Nat) : Work Unit := do
  match ← Act.look (·.hookAhead? i) with
  | some (key, program) => meet router key program
  | none => pure ()
  onCrowd (Crowd.tick router Cluster.parties i)

def run (router : Router) : List Nat → Work Unit
  | [] => pure ()
  | i :: schedule => do
    tick router i
    run router schedule

/-- The threads take turns until each has come back from all its calls, which take four steps at
most. -/
def finish (router : Router) (threads : Nat) (keys : List String) : Work Unit :=
  run router (Crowd.turns threads (4 * keys.length))

end Rush

end KeyRoute
