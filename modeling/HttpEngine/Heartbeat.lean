import HttpEngine.Duration
import HttpEngine.Event
import HttpEngine.Text.Record

/-!
# The heartbeat

Maintenance work is done at regular intervals. At each tick every handler is
called once, in the order of registration. A handler that crashes is reported;
neither the handlers after it nor the ticks to come are affected. A heartbeat
without handlers is not started at all.

Between two ticks the heartbeat waits for its stop. If the interval is over
before the stop comes, there is a tick; with the stop the heartbeat ends.
-/

namespace HttpEngine

/-- What a handler does at a tick: nothing that matters here, or a crash. -/
abbrev BeatHandler := Nat → Option Crash

/-- The time between two ticks, and the handlers in the order of
registration. -/
structure Heartbeat where
  interval : Duration
  handlers : List BeatHandler

/-- One call of a handler. -/
structure BeatCall where
  tick : Nat
  handler : Nat
deriving Repr, DecidableEq

/-- How a wait for the stop ends. -/
inductive Wait where
  /-- The interval is over. -/
  | elapsed
  /-- The stop has come. -/
  | stopped
deriving Repr, DecidableEq

/-- A heartbeat that was started: the ticks so far, whether it was stopped, and
what it has done, the latest last. -/
structure Beating where
  handlers : List BeatHandler
  ticks : Nat
  stopped : Bool
  calls : List BeatCall
  events : List Event

namespace Heartbeat

/-- A heartbeat without handlers. -/
def new (interval : Duration) : Heartbeat :=
  { interval := interval, handlers := [] }

/-- Registers one more handler. -/
def register (heartbeat : Heartbeat) (handler : BeatHandler) : Heartbeat :=
  { heartbeat with handlers := heartbeat.handlers ++ [handler] }

/-- How many handlers are registered. -/
def size (heartbeat : Heartbeat) : Nat :=
  heartbeat.handlers.length

/-- Whether no handler is registered. -/
def isEmpty (heartbeat : Heartbeat) : Bool :=
  heartbeat.handlers.isEmpty

/-- Starts the ticks, unless there is nothing to call. -/
def start (heartbeat : Heartbeat) : Option Beating :=
  if heartbeat.isEmpty then none
  else
    some
      { handlers := heartbeat.handlers
        ticks := 0
        stopped := false
        calls := []
        events := [.beatStarted heartbeat.size heartbeat.interval] }

/-- The heartbeat as text. -/
def text (heartbeat : Heartbeat) : String :=
  Text.record "Heartbeat"
    [("interval", heartbeat.interval.text), ("handlers", toString heartbeat.size)]

end Heartbeat

namespace Beating

/-- Calls one handler and takes note of a crash. -/
def call (beating : Beating) (entry : BeatHandler × Nat) : Beating :=
  let noted :=
    { beating with
      calls := beating.calls ++ [{ tick := beating.ticks, handler := entry.2 }] }
  match entry.1 beating.ticks with
  | none => noted
  | some crash => { noted with events := noted.events ++ [.beatCrashed entry.2 crash] }

/-- One tick, which does nothing after the stop. -/
def tick (beating : Beating) : Beating :=
  if beating.stopped then beating
  else
    let called := beating.handlers.zipIdx.foldl call beating
    { called with ticks := called.ticks + 1 }

/-- Stops the ticks, once. -/
def stop (beating : Beating) : Beating :=
  if beating.stopped then beating
  else { beating with stopped := true, events := beating.events ++ [.beatStopped] }

/-- What follows a wait. -/
def after (beating : Beating) : Wait → Beating
  | .elapsed => beating.tick
  | .stopped => beating.stop

/-- What follows some waits, one after the other. -/
def run (beating : Beating) (waits : List Wait) : Beating :=
  waits.foldl after beating

end Beating

namespace Heartbeat

/-- All calls that a heartbeat makes in some waits, and all that it reports. -/
def trace (heartbeat : Heartbeat) (waits : List Wait) : List BeatCall × List Event :=
  match heartbeat.start with
  | none => ([], [])
  | some beating => ((beating.run waits).calls, (beating.run waits).events)

end Heartbeat
end HttpEngine
