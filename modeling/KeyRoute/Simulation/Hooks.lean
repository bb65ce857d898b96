-- Operations that the membership layer of a script runs on the router during the next look-up of
-- a key. A look-up is the first thing that a routing call does, so which of them runs which
-- operations is known before anything runs.
import KeyRoute.Router.Program
import KeyRoute.Config.Basic

namespace KeyRoute

/-- Why a step was not taken. -/
inductive Refusal where
  | noSuchRouter
  | routerDropped
  | nameUsed
  | unknownStep
  | unknownEventType
  | unreadable (cause : Mismatch)
  | badConfig (halt : Halt ConfigFault)
  | noMetricsText
deriving DecidableEq

def Refusal.message : Refusal → String
  | .noSuchRouter => "no such router"
  | .routerDropped => "router was dropped"
  | .nameUsed => "router name already used"
  | .unknownStep => "unknown step"
  | .unknownEventType => "unknown event type"
  | .unreadable cause => cause.message
  | .badConfig (.fault cause) => ": ".intercalate cause.chain
  | .badConfig .panic => "panic"
  | .noMetricsText => "no metrics text after a concurrent step"

/-- A step inside a look-up that cannot be taken, by its name. -/
structure Remark where
  step : String
  refusal : Refusal
deriving DecidableEq

/-- Operations for the next look-ups of some keys. -/
abbrev Hooks := List (String × List (Op Remark))

namespace Hooks

def set (hooks : Hooks) (key : String) (program : List (Op Remark)) : Hooks :=
  (key, program) :: hooks.filter fun hook => hook.1 != key

def unset (hooks : Hooks) (key : String) : Hooks := hooks.filter fun hook => hook.1 != key

/-- Puts the hooks into the routing calls that will run them, each into the first look-up of its
key, and gives the hooks that are left. There are at most `depth` of them. -/
def arm : Nat → Hooks → List (Op Remark) → List (Op Remark) × Hooks
  | 0, hooks, ops => (ops, hooks)
  | _ + 1, hooks, [] => ([], hooks)
  | depth + 1, hooks, .get key during :: ops =>
    let (during, hooks) := match hooks.lookup key with
      | some program => arm depth (hooks.unset key) program
      | none => (during, hooks)
    let (ops, hooks) := arm (depth + 1) hooks ops
    (.get key during :: ops, hooks)
  | depth + 1, hooks, op :: ops =>
    let (ops, hooks) := arm (depth + 1) hooks ops
    (op :: ops, hooks)
termination_by depth _ ops => (depth, ops.length)

end Hooks

end KeyRoute
