import HttpEngine.Duration
import HttpEngine.Handler
import HttpEngine.Request.Fault
import HttpEngine.Route.Endpoint

/-!
# Events

What happens while a server is set up and runs is reported as events. Each has
a level, a message and fields; a field is a number or a text.
-/

namespace HttpEngine

/-- How much an event matters. -/
inductive Level where
  | error
  | warn
  | debug
deriving Repr, DecidableEq

/-- The name of a level. -/
def Level.label : Level → String
  | .error => "ERROR"
  | .warn => "WARN"
  | .debug => "DEBUG"

/-- The two operations on a client's stream. -/
inductive Transfer where
  | receive
  | send
deriving Repr, DecidableEq

/-- The name of an operation. -/
def Transfer.label : Transfer → String
  | .receive => "Receive"
  | .send => "Send"

/-- The value of a field. -/
inductive EventField where
  | number (n : Nat)
  | text (s : String)
deriving Repr, DecidableEq

/-- Something worth reporting. -/
inductive Event where
  /-- A registration was ignored. -/
  | duplicateEndpoint (endpoint : Endpoint)
  /-- A client left before its request was complete. -/
  | closedEarly (connection : Nat)
  /-- A request was malformed. -/
  | malformed (connection : Nat) (fault : RequestFault)
  /-- A response was put into the buffer. -/
  | responseBuilt (connection : Nat) (status : Status)
  /-- A handler crashed. -/
  | handlerCrashed (connection : Nat) (endpoint : Endpoint) (crash : Crash)
  /-- A stream failed. -/
  | transferFailed (connection : Nat) (transfer : Transfer)
  /-- A connection was given up without being closed. -/
  | connectionDropped (connection : Nat)
  /-- The regular report of a connection manager. -/
  | managerBeat (active idle : Nat)
  /-- A heartbeat was started. -/
  | beatStarted (handlers : Nat) (interval : Duration)
  /-- A heartbeat handler crashed. -/
  | beatCrashed (handler : Nat) (crash : Crash)
  /-- A heartbeat was stopped. -/
  | beatStopped
deriving Repr, DecidableEq

namespace Event

/-- The level of an event. -/
def level : Event → Level
  | .duplicateEndpoint _ => .warn
  | .handlerCrashed _ _ _ => .error
  | .beatCrashed _ _ => .error
  | _ => .debug

/-- The message of an event. -/
def message : Event → String
  | .duplicateEndpoint _ => "duplicate endpoint ignored, first registration wins"
  | .closedEarly _ => "peer closed before the request was complete"
  | .malformed _ _ => "rejecting malformed request"
  | .responseBuilt _ _ => "response built"
  | .handlerCrashed _ _ _ => "route handler panicked"
  | .transferFailed _ _ => "transport failure"
  | .connectionDropped _ => "connection dropped without teardown"
  | .managerBeat _ _ => "connection manager heartbeat"
  | .beatStarted _ _ => "heartbeat started"
  | .beatCrashed _ _ => "heartbeat handler panicked"
  | .beatStopped => "heartbeat stopped"

/-- The fields of an event. -/
def fields : Event → List (String × EventField)
  | .duplicateEndpoint endpoint => [("endpoint", .text endpoint.text)]
  | .closedEarly connection => [("connection_id", .number connection)]
  | .malformed connection fault =>
      [("connection_id", .number connection), ("code", .number fault.code.number),
       ("message", .text fault.message)]
  | .responseBuilt connection status =>
      [("connection_id", .number connection), ("status", .number status.code)]
  | .handlerCrashed connection endpoint crash =>
      [("connection_id", .number connection),
       ("method", .text (Utf8.readLossy endpoint.method)),
       ("route", .text (Utf8.readLossy endpoint.path)),
       ("panic", .text crash.message)]
  | .transferFailed connection transfer =>
      [("connection_id", .number connection), ("operation", .text transfer.label)]
  | .connectionDropped connection => [("connection_id", .number connection)]
  | .managerBeat active idle => [("active", .number active), ("idle_slots", .number idle)]
  | .beatStarted handlers interval =>
      [("handlers", .number handlers), ("interval", .text interval.text)]
  | .beatCrashed handler crash =>
      [("handler", .number handler), ("panic", .text crash.message)]
  | .beatStopped => []

end Event
end HttpEngine
