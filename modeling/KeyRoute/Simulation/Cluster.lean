-- Collaborators that follow a script: who owns which key, who this node is, and which calls fail.
-- Every handle they build is numbered, so that two handles can be told apart.
import KeyRoute.Router.Collaborators

namespace KeyRoute

/-- A handle of a scripted factory, with its number among those of its kind and address. -/
inductive Handle where
  | inProcess (n : Nat)
  | remote (service : String) (address : Address) (n : Nat)
deriving DecidableEq

/-- A transport client of a scripted channel. -/
structure Wire where
  service : String
  address : Address
deriving DecidableEq

/-- Failures of calls that concern an address: for one address, or for any other. -/
structure Failures where
  named : Address → Option RouteError
  any : Option RouteError

namespace Failures

def none : Failures := ⟨fun _ => .none, .none⟩

/-- The failure of a call for an address, if it fails. -/
def at? (failures : Failures) (address : Address) : Option RouteError :=
  (failures.named address).or failures.any

/-- Sets or clears a failure, for one address or for any. -/
def set (failures : Failures) (address : Option Address) (error : Option RouteError) : Failures :=
  match address with
  | .none => { failures with any := error }
  | .some address =>
    { failures with named := fun a => if a = address then error else failures.named a }

end Failures

/-- A call of the collaborators that can be made to fail. -/
inductive Failing where
  | lookup (key : String)
  | whoAmI
  | inProcess
  | channel (address : Option Address)
  | remote (address : Option Address)

/-- A script for the collaborators of one router, and how far their factory has counted. -/
structure Cluster where
  me : Address
  service : String
  owners : String → Option Address
  defaultOwner : Option Address
  lookupFailures : String → Option RouteError
  whoAmIFailure : Option RouteError
  localFailure : Option RouteError
  channelFailures : Failures
  remoteFailures : Failures
  /-- How many handles for this process were built. -/
  localBuilt : Nat
  /-- How many handles were built around transport clients for an address. -/
  remoteBuilt : Address → Nat

namespace Cluster

/-- A script where nothing fails. -/
def start (me : Address) (service : String) (owners : List (String × Address)) : Cluster where
  me
  service
  owners := fun key => owners.lookup key
  defaultOwner := none
  lookupFailures := fun _ => none
  whoAmIFailure := none
  localFailure := none
  channelFailures := .none
  remoteFailures := .none
  localBuilt := 0
  remoteBuilt := fun _ => 0

/-- How many events may wait in a channel of the scripted membership layer. -/
def channelCapacity : Nat := 64

/-! ## Scripting -/

def setOwner (cluster : Cluster) (key : String) (owner : Option Address) : Cluster :=
  { cluster with owners := fun k => if k = key then owner else cluster.owners k }

/-- Sets or clears a failure. -/
def setFailure (cluster : Cluster) (call : Failing) (error : Option RouteError) : Cluster :=
  match call with
  | .lookup key =>
    { cluster with lookupFailures := fun k => if k = key then error else cluster.lookupFailures k }
  | .whoAmI => { cluster with whoAmIFailure := error }
  | .inProcess => { cluster with localFailure := error }
  | .channel address =>
    { cluster with channelFailures := cluster.channelFailures.set address error }
  | .remote address => { cluster with remoteFailures := cluster.remoteFailures.set address error }

/-! ## Answers -/

/-- The error that was set, or else an answer. -/
def failing {α : Type} (error : Option RouteError) (answer : α) : Except RouteError α :=
  match error with
  | some e => .error e
  | none => .ok answer

/-- A failure that was set goes first, then the owner of the key, then that of all keys. -/
def lookup (key : String) (cluster : Cluster) : Except RouteError Address :=
  match cluster.lookupFailures key, (cluster.owners key).or cluster.defaultOwner with
  | some e, _ => .error e
  | none, some owner => .ok owner
  | none, none => .error (.lookup key "no owner for key")

def localClient (cluster : Cluster) : Except RouteError Handle × Cluster :=
  match cluster.localFailure with
  | some e => (.error e, cluster)
  | none =>
    let n := cluster.localBuilt + 1
    (.ok (.inProcess n), { cluster with localBuilt := n })

def remoteClient (wire : Wire) (cluster : Cluster) : Except RouteError Handle × Cluster :=
  match cluster.remoteFailures.at? wire.address with
  | some e => (.error e, cluster)
  | none =>
    let n := cluster.remoteBuilt wire.address + 1
    (.ok (.remote wire.service wire.address n),
      { cluster with
        remoteBuilt := fun a => if a = wire.address then n else cluster.remoteBuilt a })

/-- The collaborators that follow the script. -/
def parties : Collaborators Cluster Wire Handle where
  lookup key cluster := (lookup key cluster, cluster)
  whoAmI cluster := (failing cluster.whoAmIFailure cluster.me, cluster)
  serviceName cluster := cluster.service
  newClient service address cluster :=
    (failing (cluster.channelFailures.at? address) ⟨service, address⟩, cluster)
  localClient := localClient
  remoteClient := remoteClient

end Cluster

end KeyRoute
