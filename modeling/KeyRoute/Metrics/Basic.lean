-- What is counted, and the moves of the counters. A run of the library leaves a list of moves
-- behind; the value of a sample is the sum of its moves, so runs one after the other add up. The
-- registry is where they are added up; it is never read but to be published.
import KeyRoute.Log.Notice

namespace KeyRoute

/-- Which look into the cache found a handle. -/
inductive Path where
  /-- The first one, under the shared lock. -/
  | fast
  /-- The second one, under the exclusive lock. -/
  | recheck
deriving DecidableEq

def Path.name : Path → String
  | .fast => "fast"
  | .recheck => "recheck"

/-- Which call to a collaborator failed a routing call. -/
inductive Stage where
  | lookup
  | whoAmI
  | construct
deriving DecidableEq

def Stage.name : Stage → String
  | .lookup => "lookup"
  | .whoAmI => "whoami"
  | .construct => "construct"

/-- A number that is kept. All but the last only rise. -/
inductive Sample where
  | hits (path : Path)
  | misses
  | created (kind : Kind)
  | evictions
  | routeErrors (stage : Stage)
  /-- How many handles the caches of all routers hold. -/
  | cachedClients
deriving DecidableEq

/-- One change of one number. -/
structure Move where
  sample : Sample
  amount : Int
deriving DecidableEq

namespace Sample

/-- The sample goes up by one. -/
def up (sample : Sample) : Move := ⟨sample, 1⟩

/-- The sample goes down by one. -/
def down (sample : Sample) : Move := ⟨sample, -1⟩

/-- All samples, by name and label. -/
def all : List Sample :=
  [.hits .fast, .hits .recheck, .misses, .cachedClients, .created .inProcess, .created .remote,
    .evictions, .routeErrors .construct, .routeErrors .lookup, .routeErrors .whoAmI]

end Sample

namespace Metrics

/-- What a move does to a sample. -/
def effect (sample : Sample) (move : Move) : Int :=
  if move.sample = sample then move.amount else 0

/-- The value of a sample after some moves, from zero. -/
def value : List Move → Sample → Int
  | [], _ => 0
  | move :: moves, sample => effect sample move + value moves sample

theorem value_append (moves more : List Move) (sample : Sample) :
    value (moves ++ more) sample = value moves sample + value more sample := by
  induction moves with
  | nil => simp [value]
  | cons move moves ih => simp only [List.cons_append, value, ih, Int.add_assoc]

/-- Whether a sample ever moved. -/
def moved (moves : List Move) (sample : Sample) : Bool :=
  moves.any fun move => move.sample == sample

/-- The numbers as they are kept for all that move them. -/
@[ext] structure Registry where
  value : Sample → Int
  /-- Whether a sample ever moved. -/
  moved : Sample → Bool

namespace Registry

/-- Nothing moved yet. -/
def empty : Registry := ⟨fun _ => 0, fun _ => false⟩

/-- A move is added to what there is. -/
def add (registry : Registry) (move : Move) : Registry where
  value sample := registry.value sample + effect sample move
  moved sample := registry.moved sample || move.sample == sample

/-- Moves are added one after the other. -/
def record (registry : Registry) (moves : List Move) : Registry := moves.foldl add registry

variable (registry : Registry) (moves : List Move) (sample : Sample)

theorem record_value :
    (registry.record moves).value sample = registry.value sample + Metrics.value moves sample := by
  induction moves generalizing registry with
  | nil => exact (Int.add_zero _).symm
  | cons move moves ih => exact (ih _).trans (Int.add_assoc ..)

theorem record_moved :
    (registry.record moves).moved sample =
      (registry.moved sample || Metrics.moved moves sample) := by
  induction moves generalizing registry with
  | nil => exact (Bool.or_false _).symm
  | cons move moves ih => exact (ih _).trans (Bool.or_assoc ..)

theorem record_append (more : List Move) :
    registry.record (moves ++ more) = (registry.record moves).record more :=
  List.foldl_append

end Registry

/-- The samples that some moves changed on the whole, with the change. -/
def changes (moves : List Move) : List (Sample × Int) :=
  (Sample.all.map fun sample => (sample, value moves sample)).filter fun change => change.2 != 0

end Metrics

end KeyRoute
