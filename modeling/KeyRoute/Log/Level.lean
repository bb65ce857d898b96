-- The levels of log lines and of log filters, from silent to talkative.
import KeyRoute.Decimal.Digits

namespace KeyRoute

/-- How much of the log is let through. A log line has any level but `off`. -/
inductive Level where
  | off
  | error
  | warn
  | info
  | debug
  | trace
deriving DecidableEq

namespace Level

/-- The number of a level; the more it lets through, the greater. -/
def rank : Level → Nat
  | .off => 0
  | .error => 1
  | .warn => 2
  | .info => 3
  | .debug => 4
  | .trace => 5

/-- Whether a filter of this level lets a line of level `line` through. -/
def admits (level line : Level) : Bool := line.rank ≤ level.rank

/-- The one that lets more through. -/
def max (a b : Level) : Level := if a.rank < b.rank then b else a

def all : List Level := [.off, .error, .warn, .info, .debug, .trace]

/-- The name of a level in a filter. -/
def name : Level → String
  | .off => "off"
  | .error => "error"
  | .warn => "warn"
  | .info => "info"
  | .debug => "debug"
  | .trace => "trace"

/-- The name of a level at the head of a log line. -/
def label : Level → String
  | .off => "OFF"
  | .error => "ERROR"
  | .warn => "WARN"
  | .info => "INFO"
  | .debug => "DEBUG"
  | .trace => "TRACE"

/-- The level of a number from zero to five. -/
def ofRank? (n : Nat) : Option Level := all.find? fun level => level.rank == n

/-- The level that a text names, by its number or by its name in any case of the letters. -/
def parse? (cs : List Char) : Option Level :=
  ((Decimal.unsigned? cs).bind ofRank?).or
    (all.find? fun level => level.name.toList == cs.map Char.toLower)

end Level

end KeyRoute
