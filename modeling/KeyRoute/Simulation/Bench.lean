-- A listener on its own, with a handler that only keeps what it is given.
import KeyRoute.Listener.Basic

namespace KeyRoute

/-- A step on a listener alone. -/
inductive BenchStep where
  | send (events : List Event)
  | queue (events : List Event)
  | drain
  | close
  | dropHandler
  | shutdown
  | dropShutdown

/-- What a step gives back. -/
inductive BenchReply where
  | nothing
  | verdicts (verdicts : List Verdict)
  | flag (value : Bool)

/-- What was to be seen of a step. -/
structure BenchReport where
  reply : BenchReply
  /-- The events that were handled, unless the handler is gone. -/
  handled : Option (List Event)
  running : Bool
  log : List Notice

namespace Listener

/-- Something that is done to a listener once it waits, and after which it runs on. -/
def between {α : Type} (l : Listener) (f : Listener → Listener × α) :
    Listener × α × List Emission :=
  let (l, before) := l.settle
  let (l, answer) := f l
  let (l, after) := l.settle
  (l, answer, before ++ after)

/-- A step, with the listener after it, its reply, and what the listener did. -/
def benchStep (l : Listener) : BenchStep → Listener × BenchReply × List Emission
  | .send events =>
    let (l, verdicts) := l.sendAll events
    let (l, emissions) := l.settle
    (l, .verdicts verdicts, emissions)
  | .queue events =>
    let (l, verdicts) := l.sendAll events
    (l, .verdicts verdicts, [])
  | .drain =>
    let (l, emissions) := l.settle
    (l, .nothing, emissions)
  | .close => (l.dropSender, .flag l.senderAlive, [])
  | .dropHandler => (l.dropHandler, .flag l.handlerAlive, [])
  | .shutdown =>
    let (l, given, emissions) := l.between signal
    (l, .flag given, emissions)
  | .dropShutdown =>
    let (l, there, emissions) := l.between fun l => (l.dropSignal, l.signalAlive)
    (l, .flag there, emissions)

/-- A step with its report. -/
def bench (l : Listener) (step : BenchStep) : Listener × BenchReport :=
  let (l, reply, emissions) := l.benchStep step
  let handled := if l.handlerAlive then some (Emission.events emissions) else none
  (l, ⟨reply, handled, !l.hasEnded, emissions.flatMap Emission.log⟩)

end Listener

end KeyRoute
