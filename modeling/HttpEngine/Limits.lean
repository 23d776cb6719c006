import HttpEngine.Duration
import HttpEngine.Text.Record

/-!
# Limits of a server

A server has limits of its own and limits for each connection. Before a server
is built its limits are checked one after the other in a fixed order; the first
one that is out of range is reported.

* counts and sizes are at least one;
* a size that is absent means no limit;
* times are greater than zero and at most one day, to the nanosecond.
-/

namespace HttpEngine

/-- Why a configuration is refused. -/
inductive ConfigFault where
  /-- There would be no worker. -/
  | noWorkers
  /-- A limit is out of range. -/
  | invalidLimit (field reason : String)
  /-- The address was to change while a listener is bound. -/
  | listenerActive
deriving Repr, DecidableEq

namespace ConfigFault

/-- The name of a fault. -/
def label : ConfigFault → String
  | .noWorkers => "InvalidWorkersCount"
  | .invalidLimit _ _ => "InvalidLimit"
  | .listenerActive => "ListenerActive"

/-- The description of a fault. -/
def message : ConfigFault → String
  | .noWorkers => "workers_count must be at least 1"
  | .invalidLimit field reason => "invalid limit `" ++ field ++ "`: " ++ reason
  | .listenerActive => "address cannot change while the listener is bound"

end ConfigFault

/-- A condition and the fault that it rules out. -/
structure Check where
  holds : Bool
  fault : ConfigFault
deriving Repr, DecidableEq

namespace Check

/-- A count or a size has to be at least one. -/
def atLeastOne (field : String) (value : Nat) : Check :=
  { holds := 1 ≤ value, fault := .invalidLimit field "must be at least 1" }

/-- A size that is given has to be at least one. -/
def atLeastOneIfGiven (field : String) : Option Nat → Check
  | none => { holds := true, fault := .invalidLimit field "must be at least 1" }
  | some value => atLeastOne field value

/-- The longest time a limit may allow. -/
def oneDay : Duration := .ofSeconds 86400

/-- A time has to be greater than zero and at most one day. -/
def time (field : String) (value : Duration) : List Check :=
  [{ holds := 0 < value.nanos
     fault := .invalidLimit field "must be greater than zero" },
   { holds := value.nanos ≤ oneDay.nanos
     fault := .invalidLimit field "must not exceed one day" }]

/-- The fault of the first condition that does not hold. -/
def firstFault : List Check → Option ConfigFault
  | [] => none
  | check :: rest => if check.holds then firstFault rest else some check.fault

end Check

/-- Limits of the server as a whole. -/
structure ServerLimits where
  workersCount : Nat
  bufferSize : Nat
  preallocatedSlots : Nat
  listenBacklog : Nat
  heartbeatInterval : Duration
deriving Repr, DecidableEq

namespace ServerLimits

/-- The limits of a server that is told nothing, on a machine with some
processors. -/
def standard (processors : Nat) : ServerLimits :=
  { workersCount := processors
    bufferSize := 4096
    preallocatedSlots := 64
    listenBacklog := 1024
    heartbeatInterval := .ofSeconds 1 }

/-- The conditions on a server's limits, in order. -/
def checks (limits : ServerLimits) : List Check :=
  [{ holds := 1 ≤ limits.workersCount, fault := .noWorkers },
   .atLeastOne "buffer_size" limits.bufferSize,
   .atLeastOne "listen_backlog" limits.listenBacklog] ++
    Check.time "heartbeat_interval" limits.heartbeatInterval

/-- The limits as text. -/
def text (limits : ServerLimits) : String :=
  Text.record "ServerLimits"
    [("workers_count", toString limits.workersCount),
     ("buffer_size", toString limits.bufferSize),
     ("preallocated_slots", toString limits.preallocatedSlots),
     ("listen_backlog", toString limits.listenBacklog),
     ("heartbeat_interval", limits.heartbeatInterval.text),
     ("_priv", "()")]

end ServerLimits

/-- Limits of each connection. -/
structure ConnectionLimits where
  keepAliveTimeout : Duration
  requestHeadersTimeout : Duration
  maxRequestBodySize : Option Nat
  maxRequestHeaderCount : Nat
  maxRequestLineSize : Nat
  maxRequestHeadersTotalSize : Nat
  maxConcurrentConnections : Option Nat
deriving Repr, DecidableEq

namespace ConnectionLimits

/-- The limits of a connection of a server that is told nothing. -/
def standard : ConnectionLimits :=
  { keepAliveTimeout := .ofSeconds 130
    requestHeadersTimeout := .ofSeconds 30
    maxRequestBodySize := some 30000000
    maxRequestHeaderCount := 100
    maxRequestLineSize := 8192
    maxRequestHeadersTotalSize := 32768
    maxConcurrentConnections := none }

/-- The conditions on a connection's limits, in order. -/
def checks (limits : ConnectionLimits) : List Check :=
  Check.time "keep_alive_timeout" limits.keepAliveTimeout ++
    Check.time "request_headers_timeout" limits.requestHeadersTimeout ++
    [.atLeastOneIfGiven "max_request_body_size" limits.maxRequestBodySize,
     .atLeastOne "max_request_header_count" limits.maxRequestHeaderCount,
     .atLeastOne "max_request_line_size" limits.maxRequestLineSize,
     .atLeastOne "max_request_headers_total_size" limits.maxRequestHeadersTotalSize,
     .atLeastOneIfGiven "max_concurrent_connections" limits.maxConcurrentConnections]

/-- The limits as text. -/
def text (limits : ConnectionLimits) : String :=
  Text.record "ConnLimits"
    [("keep_alive_timeout", limits.keepAliveTimeout.text),
     ("request_headers_timeout", limits.requestHeadersTimeout.text),
     ("max_request_body_size", Text.optional (limits.maxRequestBodySize.map toString)),
     ("max_request_header_count", toString limits.maxRequestHeaderCount),
     ("max_request_line_size", toString limits.maxRequestLineSize),
     ("max_request_headers_total_size", toString limits.maxRequestHeadersTotalSize),
     ("max_concurrent_connections", Text.optional (limits.maxConcurrentConnections.map toString)),
     ("_priv", "()")]

end ConnectionLimits
end HttpEngine
