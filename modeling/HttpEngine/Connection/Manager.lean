import HttpEngine.Connection
import HttpEngine.Limits
import HttpEngine.Pool

/-!
# The connection manager

The manager accepts clients. It numbers their connections, lends each a slot from its
pool, and keeps the table of the active ones:

* accepting a client takes a slot, the next number, and enters the number
  into the table;
* closing a connection removes its entry and returns its slot;
* a connection that is dropped without being closed removes its own entry if it
  still has one, and returns its slot.

Entering a number twice, or removing one that is not there, means that the
books are wrong and brings the task that tries it down. The connection at hand
is then dropped.
-/

namespace HttpEngine

/-- The idle slots, the number of slots made so far, the numbers of the active
connections, the next number, and the size of a buffer. -/
structure Manager where
  slots : Pool Slot
  made : Nat
  active : List Nat
  nextId : Nat
  bufferSize : Nat
deriving Repr, DecidableEq

/-- How the books of a manager can be found wrong. -/
inductive ManagerFault where
  | registeredTwice (id : Nat)
  | notRegistered (id : Nat)
deriving Repr, DecidableEq

/-- The report of a fault. -/
def ManagerFault.message : ManagerFault → String
  | .registeredTwice id => "connection id " ++ toString id ++ " registered twice"
  | .notRegistered id => "connection id " ++ toString id ++ " is not registered"

/-- What becomes of a connection at its first receive. -/
inductive Opening where
  /-- The first bytes are in the buffer. -/
  | opened (connection : Connection)
  /-- The client has to write first. -/
  | pending (connection : Connection)
  /-- The stream has failed, and the connection is closed. -/
  | failed (fault : IoFault)
  /-- The books were wrong. -/
  | crashed (fault : ManagerFault)

namespace Manager

/-- A manager without connections. -/
def new (limits : ServerLimits) : Manager :=
  { slots := Pool.empty.fill ((List.range limits.preallocatedSlots).map Slot.new)
    made := limits.preallocatedSlots
    active := []
    nextId := 1
    bufferSize := limits.bufferSize }

/-- How many connections are active. -/
def activeCount (manager : Manager) : Nat :=
  manager.active.length

/-- How many slots are idle. -/
def idleSlots (manager : Manager) : Nat :=
  manager.slots.idleCount

/-- Takes an idle slot or makes one. -/
def takeSlot (manager : Manager) : Slot × Manager :=
  match manager.slots.take? with
  | some (slot, slots) => (slot, { manager with slots := slots })
  | none => (Slot.new manager.made, { manager with made := manager.made + 1 })

/-- Returns a slot. -/
def returnSlot (manager : Manager) (slot : Slot) : Manager :=
  { manager with slots := (manager.slots.release slot).1 }

/-- Takes the next number. -/
def takeId (manager : Manager) : Nat × Manager :=
  (manager.nextId, { manager with nextId := manager.nextId + 1 })

/-- Removes an entry if it is there. -/
def forget (manager : Manager) (id : Nat) : Manager :=
  { manager with active := manager.active.erase id }

/-- Enters a number into the table. -/
def register (manager : Manager) (id : Nat) : Except ManagerFault Manager :=
  if id ∈ manager.active then .error (.registeredTwice id)
  else .ok { manager with active := id :: manager.active }

/-- Removes a number from the table. -/
def unregister (manager : Manager) (id : Nat) : Except ManagerFault Manager :=
  if id ∈ manager.active then .ok (manager.forget id)
  else .error (.notRegistered id)

/-- Accepts a client. -/
def accept (manager : Manager) (stream : Stream) : Manager × Except ManagerFault Connection :=
  let (slot, manager) := manager.takeSlot
  let (id, manager) := manager.takeId
  match manager.register id with
  | .error fault => (manager.returnSlot slot.prepare, .error fault)
  | .ok manager =>
      (manager,
        .ok
          { id := id
            stream := stream
            slot := slot.prepare
            request := none
            registered := true })

/-- Lets a connection go: the entry that it still has is removed, and its slot
comes back. -/
def drop (manager : Manager) (connection : Connection) : Manager × List Event :=
  if connection.registered && connection.id ∈ manager.active then
    ((manager.forget connection.id).returnSlot connection.slot,
      [.connectionDropped connection.id])
  else
    (manager.returnSlot connection.slot, [])

/-- Closes a connection. -/
def close
    (manager : Manager) (connection : Connection) :
    Manager × Option ManagerFault × List Event :=
  match manager.unregister connection.id with
  | .ok manager =>
      let (manager, events) := manager.drop { connection with registered := false }
      (manager, none, events)
  | .error fault =>
      let (manager, events) := manager.drop connection
      (manager, some fault, events)

/-- Waits for the first bytes of an accepted connection. -/
def firstReceive
    (manager : Manager) (connection : Connection) :
    Manager × Opening × List Event :=
  match connection.receive manager.bufferSize with
  | (.bytes _, connection) => (manager, .opened connection, [])
  | (.pending, connection) => (manager, .pending connection, [])
  | (.failed fault, connection) =>
      let failure := Received.events connection.id (.failed fault)
      match manager.close connection with
      | (manager, none, events) => (manager, .failed fault, failure ++ events)
      | (manager, some crash, events) => (manager, .crashed crash, failure ++ events)

/-- Accepts a client and waits for its first bytes. -/
def receiveFrom (manager : Manager) (stream : Stream) : Manager × Opening × List Event :=
  match manager.accept stream with
  | (manager, .ok connection) => manager.firstReceive connection
  | (manager, .error fault) => (manager, .crashed fault, [])

/-- Sends the contents of the buffer and closes the connection. -/
def sendResponse
    (manager : Manager) (connection : Connection) :
    Manager × Stream × Option ManagerFault × List Event :=
  let (fault, connection) := connection.send
  let (manager, crash, events) := manager.close connection
  (manager, connection.stream, crash, sendEvents connection.id fault ++ events)

/-- The regular report of the manager. -/
def beat (manager : Manager) : Event :=
  .managerBeat manager.activeCount manager.idleSlots

end Manager
end HttpEngine
