import HttpEngine.Connection.Manager
import HttpEngine.Exchange

/-!
# Connections served side by side

A service gives every client that it accepts a task of its own. The tasks share
one connection manager and one pool of exchanges. A task goes on step by step:

1. it gets a slot and a number and is entered as active;
2. it receives the first bytes;
3. it takes an exchange;
4. in turn it looks at the buffer and receives more bytes;
5. it sends the response that the look has put into the buffer;
6. its entry is removed;
7. its slot is returned;
8. its exchange is returned.

Steps of different tasks may follow each other in any order, and a task may be
aborted between any two of its steps; it then gives back all that it holds.
-/

namespace HttpEngine

/-- How far the task of one client has come. -/
inductive Serving where
  /-- The client has been accepted. -/
  | arrived (stream : Stream)
  /-- The first bytes are awaited. -/
  | opening (connection : Connection)
  /-- The first bytes are there. -/
  | opened (connection : Connection)
  /-- The exchange is to look at the buffer. -/
  | reading (connection : Connection) (exchange : Exchange)
  /-- More bytes are awaited. -/
  | starved (connection : Connection) (exchange : Exchange)
  /-- The response is in the buffer. -/
  | answered (connection : Connection) (exchange : Exchange)
  /-- The connection is to be closed. -/
  | closing (connection : Connection) (exchange : Option Exchange)
  /-- The connection is closed, and its slot is to be returned. -/
  | leaving (connection : Connection) (exchange : Option Exchange)
  /-- The exchange is to be returned. -/
  | parting (exchange : Option Exchange) (stream : Stream)
  /-- The task has run to its end. -/
  | ended (stream : Stream)
  /-- The task was aborted, or brought down by wrong books. -/
  | aborted

namespace Serving

/-- The connection that a task holds. -/
def connection? : Serving → Option Connection
  | .opening connection => some connection
  | .opened connection => some connection
  | .reading connection _ => some connection
  | .starved connection _ => some connection
  | .answered connection _ => some connection
  | .closing connection _ => some connection
  | .leaving connection _ => some connection
  | _ => none

/-- The exchange that a task holds. -/
def exchange? : Serving → Option Exchange
  | .reading _ exchange => some exchange
  | .starved _ exchange => some exchange
  | .answered _ exchange => some exchange
  | .closing _ exchange => exchange
  | .leaving _ exchange => exchange
  | .parting exchange _ => exchange
  | _ => none

/-- Whether nothing is left to do. -/
def isOver : Serving → Bool
  | .ended _ => true
  | .aborted => true
  | _ => false

/-- What a task that has run to its end has sent. -/
def sent? : Serving → Option Bytes
  | .ended stream => some stream.sent
  | _ => none

end Serving

/-- The shared manager, the pool of exchanges and how many have been made, and
the tasks in the order in which their clients were accepted. -/
structure Service where
  manager : Manager
  exchanges : Pool Exchange
  made : Nat
  tasks : List Serving

/-- One step of a service. -/
inductive ServiceStep where
  /-- A client is accepted. -/
  | accept (stream : Stream)
  /-- A task goes on. -/
  | advance (task : Nat)
  /-- A task is aborted. -/
  | abort (task : Nat)

namespace Service

/-- A service without clients. -/
def new (limits : ServerLimits) : Service :=
  { manager := .new limits
    exchanges := Pool.empty.fill ((List.range limits.preallocatedSlots).map Exchange.new)
    made := limits.preallocatedSlots
    tasks := [] }

/-- Takes an idle exchange or makes one. -/
def takeExchange (service : Service) : Exchange × Service :=
  match service.exchanges.take? with
  | some (exchange, exchanges) => (exchange, { service with exchanges := exchanges })
  | none => (Exchange.new service.made, { service with made := service.made + 1 })

/-- Returns an exchange. -/
def returnExchange (service : Service) : Option Exchange → Service
  | none => service
  | some exchange => { service with exchanges := (service.exchanges.release exchange).1 }

/-- Drops a connection if there is one. -/
def dropConnection (service : Service) : Option Connection → Service × List Event
  | none => (service, [])
  | some connection =>
      let (manager, events) := service.manager.drop connection
      ({ service with manager := manager }, events)

/-- Gives back all that a task holds. -/
def surrender (service : Service) (task : Serving) : Service × List Event :=
  (service.returnExchange task.exchange?).dropConnection task.connection?

/-- Replaces the state of a task. -/
def setTask (service : Service) (k : Nat) (task : Serving) : Service :=
  { service with tasks := service.tasks.set k task }

/-- The next step of a task, together with what is shared after it. -/
def next (site : Site) (service : Service) : Serving → Serving × Service × List Event
  | .arrived stream =>
      match service.manager.accept stream with
      | (manager, .ok connection) =>
          (.opening connection, { service with manager := manager }, [])
      | (manager, .error _) => (.aborted, { service with manager := manager }, [])
  | .opening connection =>
      let (received, connection) := connection.receive service.manager.bufferSize
      let events := received.events connection.id
      match received with
      | .bytes _ => (.opened connection, service, events)
      | .failed _ => (.closing connection none, service, events)
      | .pending => (.opening connection, service, events)
  | .opened connection =>
      let (exchange, service) := service.takeExchange
      (.reading connection exchange.restart, service, [])
  | .reading connection exchange =>
      match exchange.look site connection with
      | .starved parser => (.starved connection { exchange with parser := parser }, service, [])
      | .settled .respond parser connection events =>
          (.answered connection { exchange with parser := parser }, service, events)
      | .settled .abort parser connection events =>
          (.closing connection (some { exchange with parser := parser }), service, events)
  | .starved connection exchange =>
      let (received, connection) := connection.receive service.manager.bufferSize
      let events := received.events connection.id
      match received with
      | .bytes _ => (.reading connection exchange, service, events)
      | .failed _ => (.closing connection (some exchange), service, events)
      | .pending => (.starved connection exchange, service, events)
  | .answered connection exchange =>
      let (fault, connection) := connection.send
      (.closing connection (some exchange), service, sendEvents connection.id fault)
  | .closing connection exchange =>
      match service.manager.unregister connection.id with
      | .ok manager =>
          (.leaving { connection with registered := false } exchange,
            { service with manager := manager }, [])
      | .error _ =>
          let (service, events) := service.surrender (.closing connection exchange)
          (.aborted, service, events)
  | .leaving connection exchange =>
      let (service, events) := service.dropConnection (some connection)
      (.parting exchange connection.stream, service, events)
  | .parting exchange stream => (.ended stream, service.returnExchange exchange, [])
  | .ended stream => (.ended stream, service, [])
  | .aborted => (.aborted, service, [])

/-- One step of a service. -/
def step (site : Site) (service : Service) : ServiceStep → Service × List Event
  | .accept stream => ({ service with tasks := service.tasks ++ [.arrived stream] }, [])
  | .advance k =>
      match service.tasks[k]? with
      | none => (service, [])
      | some task =>
          let (task, service, events) := service.next site task
          (service.setTask k task, events)
  | .abort k =>
      match service.tasks[k]? with
      | none => (service, [])
      | some task =>
          if task.isOver then (service, [])
          else
            let (service, events) := service.surrender task
            (service.setTask k .aborted, events)

/-- Any number of steps, one after the other. -/
def run (site : Site) (service : Service) (steps : List ServiceStep) : Service :=
  steps.foldl (fun service s => (service.step site s).1) service

/-- Whether nothing is left to do for any client. -/
def isIdle (service : Service) : Bool :=
  service.tasks.all Serving.isOver

/-- Lets one task go on for some steps. -/
def advanceFor (site : Site) (service : Service) (k : Nat) : Nat → Service
  | 0 => service
  | steps + 1 => (service.step site (.advance k)).1.advanceFor site k steps

/-- A number of steps in which a task comes to its end or has to wait for its
client: two for each byte and some more. -/
def stepsFor (stream : Stream) : Nat :=
  2 * stream.content.length + 12

/-- Accepts a client and serves it before any other. -/
def serve (site : Site) (service : Service) (stream : Stream) : Service × Serving :=
  let k := service.tasks.length
  let service := (service.step site (.accept stream)).1.advanceFor site k (stepsFor stream)
  (service, service.tasks[k]?.getD .aborted)

end Service
end HttpEngine
