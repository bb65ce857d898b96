-- Routers that share their metrics. Each has collaborators and threads of its own; routers are
-- started and dropped at any time, and in between anything may happen on any of them.
import Mathlib.Algebra.GroupWithZero.Nat
import KeyRoute.Router.Concurrent

namespace KeyRoute

/-- A router with its threads and what became visible of it. A router that was dropped stays in the
record as it was. -/
structure Post (W T C A : Type) where
  router : Router
  parties : Collaborators W T C
  crowd : Crowd W C
  past : Trace T C A
  live : Bool

/-- Routers with what they did to the metrics. -/
structure Fleet (W T C A : Type) where
  posts : List (Post W T C A)
  moves : List Move

/-- What may happen next among routers. -/
inductive Fleet.Turn (W T C : Type) where
  | found (parties : Collaborators W T C) (config : Config) (world : W)
  /-- Something happens on the router with this number. -/
  | stir (post : Nat) (s : Stir W)
  | drop (post : Nat)

namespace Post

variable {W T C A : Type}

/-- A router that was just started. -/
def found (parties : Collaborators W T C) (config : Config) (world : W) : Post W T C A :=
  let (router, trace) := Router.start parties config world
  ⟨router, parties, .start ⟨world, .empty⟩ [], trace, true⟩

/-- Something that happens on a router. -/
def stir (post : Post W T C A) (s : Stir W) : Outcome (Crowd W C) T C A Unit :=
  Crowd.stir post.router post.parties s post.crowd

/-- No thread has begun anything that it has not finished. -/
def idle (post : Post W T C A) : Bool :=
  post.crowd.threads.all fun thread => thread.jobs.all Job.fresh

def size (post : Post W T C A) : Nat := post.crowd.state.cache.size

end Post

namespace Fleet

variable {W T C A : Type}

/-- No routers, and metrics from zero. -/
def start : Fleet W T C A := ⟨[], []⟩

/-- One turn. A router that was dropped does nothing more, and none is dropped in the middle of a
call, which holds on to it. -/
def turn (fleet : Fleet W T C A) : Turn W T C → Fleet W T C A
  | .found parties config world =>
    let post : Post W T C A := .found parties config world
    ⟨fleet.posts ++ [post], fleet.moves ++ post.past.moves⟩
  | .stir n s =>
    match fleet.posts[n]? with
    | none => fleet
    | some post =>
      if post.live then
        let o := post.stir s
        ⟨fleet.posts.set n { post with crowd := o.state, past := post.past ++ o.trace },
          fleet.moves ++ o.trace.moves⟩
      else fleet
  | .drop n =>
    match fleet.posts[n]? with
    | none => fleet
    | some post =>
      if post.live && post.idle then
        ⟨fleet.posts.set n { post with live := false },
          fleet.moves ++ post.router.dropMoves post.crowd.state.cache⟩
      else fleet

/-- All turns, in order. -/
def run (fleet : Fleet W T C A) : List (Turn W T C) → Fleet W T C A
  | [] => fleet
  | t :: turns => (fleet.turn t).run turns

/-- No routing call and no removal is under way. -/
def idle (fleet : Fleet W T C A) : Bool := fleet.posts.all Post.idle

/-- The routers that have metrics enabled. -/
def counted (fleet : Fleet W T C A) : List (Post W T C A) :=
  fleet.posts.filter (·.router.metricsEnabled)

/-- A number added up over them. -/
def total (fleet : Fleet W T C A) (f : Post W T C A → Nat) : Nat := (fleet.counted.map f).sum

end Fleet

end KeyRoute
