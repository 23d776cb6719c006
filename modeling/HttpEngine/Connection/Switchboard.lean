import HttpEngine.Connection.Manager

/-!
# Connections in the hands of others

A connection may be passed around before it is torn down, also to a manager
that did not accept it. The switchboard holds any number of managers and the
connections that are alive, each under a name and with the manager that
accepted it, its home.

The two books are kept apart: the entry that closing removes is the one of the
manager that is asked to close, while the slot, and the entry of a connection
that is merely dropped, belong to the home. So a manager that is handed a
connection of another one removes the entry of its own connection of the same
number if there is one, and the entry at home stays.

Whoever sends or closes may have to wait: for the client to take the rest of the
buffer, and, once the entry is removed, for the stream to be shut down. In
between others go on, and the connection may be dropped; a connection whose entry
is removed can only be dropped or come to its end.
-/

namespace HttpEngine

/-- A connection that is alive, and the manager that accepted it. -/
structure Held (ι : Type) where
  home : ι
  /-- The first receive has not been completed. -/
  opening : Bool
  connection : Connection

/-- Managers and the connections that are alive. -/
structure Switchboard (ι : Type) where
  managers : ι → Manager
  held : List (String × Held ι)

/-- One event in the life of the connections. -/
inductive SwitchboardStep (ι : Type) where
  /-- A client is accepted, and its first bytes are awaited. -/
  | accept (manager : ι) (name : String) (stream : Stream)
  /-- A client writes. -/
  | write (name : String) (bytes : Bytes)
  /-- A client ends its side. -/
  | finish (name : String) (ending : StreamEnd)
  /-- The next bytes are awaited. -/
  | receive (name : String)
  /-- A manager is asked to send what the buffer holds and to close. -/
  | send (manager : ι) (name : String)
  /-- A manager is asked to close. -/
  | close (manager : ι) (name : String)
  /-- A part of the buffer is sent, and the client takes no more for now. -/
  | sendPart (name : String) (count : Nat)
  /-- A manager begins to close, when it is asked to, or at the end of a send or of a
  first receive that has failed; the stream is not shut down at once. -/
  | startClose (manager : ι) (name : String)
  /-- The stream of a connection that was being closed is shut down. -/
  | endClose (name : String)
  /-- A connection is dropped, or the task that holds it is. -/
  | drop (name : String)
  /-- A manager reports. -/
  | beat (manager : ι)

/-- What an event answers. -/
inductive SwitchboardAnswer where
  | done
  /-- A connection is open; its buffer holds the first bytes. -/
  | opened (connection : Connection)
  /-- That many bytes are in the buffer. -/
  | received (count : Nat) (buffer : Bytes)
  /-- The first receive failed. -/
  | refused (fault : IoFault)
  /-- A later receive failed. -/
  | failed (fault : IoFault) (buffer : Bytes)
  /-- The connection is gone; the client has read that. -/
  | closed (client : Option Bytes)
  /-- The books were wrong. -/
  | crashed (fault : ManagerFault)
  | pending
  | unknown

namespace Switchboard

variable {ι : Type} [DecidableEq ι]

/-- Managers of equal limits, without connections. -/
def new (limits : ServerLimits) : Switchboard ι :=
  { managers := fun _ => .new limits, held := [] }

/-- The connection of that name. -/
def held? (board : Switchboard ι) (name : String) : Option (Held ι) :=
  board.held.lookup name

/-- The connection of that name, unless it is being closed. -/
def open? (board : Switchboard ι) (name : String) : Option (Held ι) :=
  (board.held? name).filter fun held => held.connection.registered

/-- Replaces a manager. -/
def setManager (board : Switchboard ι) (i : ι) (manager : Manager) : Switchboard ι :=
  { board with managers := fun j => if j = i then manager else board.managers j }

/-- Takes a connection off the switchboard without any other effect. -/
def remove (board : Switchboard ι) (name : String) : Switchboard ι :=
  { board with held := board.held.filter fun entry => entry.1 != name }

/-- Holds a connection under a name. -/
def hold (board : Switchboard ι) (name : String) (held : Held ι) : Switchboard ι :=
  { board.remove name with held := (name, held) :: (board.remove name).held }

/-- Drops a connection: its home takes it back. -/
def dropHeld (board : Switchboard ι) (held : Held ι) : Switchboard ι × List Event :=
  let (manager, events) := (board.managers held.home).drop held.connection
  (board.setManager held.home manager, events)

/-- Drops the connection of a name if there is one. -/
def dropName (board : Switchboard ι) (name : String) : Switchboard ι × List Event :=
  match board.held? name with
  | none => (board, [])
  | some held => (board.remove name).dropHeld held

/-- Asks a manager to close a connection that is off the switchboard. -/
def closeAt
    (board : Switchboard ι) (i : ι) (held : Held ι) :
    Switchboard ι × Option ManagerFault × List Event :=
  match (board.managers i).unregister held.connection.id with
  | .ok manager =>
      let gone := { held with connection := { held.connection with registered := false } }
      let (board, events) := (board.setManager i manager).dropHeld gone
      (board, none, events)
  | .error fault =>
      let (board, events) := board.dropHeld held
      (board, some fault, events)

/-- Asks a manager to close a connection that is off the switchboard; it is held
until its stream is shut down. -/
def startCloseAt
    (board : Switchboard ι) (i : ι) (name : String) (held : Held ι) :
    Switchboard ι × Option ManagerFault × List Event :=
  match (board.managers i).unregister held.connection.id with
  | .ok manager =>
      let closing := { held with connection := { held.connection with registered := false } }
      ((board.setManager i manager).hold name closing, none, [])
  | .error fault =>
      let (board, events) := board.dropHeld held
      (board, some fault, events)

/-- The answer of closing a connection with that stream. -/
def closing (stream : Stream) : Option ManagerFault → SwitchboardAnswer
  | none => .closed stream.clientView
  | some fault => .crashed fault

/-- Holds a connection under a name; another one of that name is dropped. -/
def put
    (board : Switchboard ι) (name : String) (held : Held ι) :
    Switchboard ι × List Event :=
  match board.held? name with
  | none => (board.hold name held, [])
  | some old => (board.hold name held).dropHeld old

/-- Takes up what became of a first receive. -/
def takeOpening
    (board : Switchboard ι) (i : ι) (name : String) :
    Manager × Opening × List Event → Switchboard ι × SwitchboardAnswer × List Event
  | (manager, .opened connection, events) =>
      let (board, more) :=
        (board.setManager i manager).put name
          { home := i, opening := false, connection := connection }
      (board, .opened connection, events ++ more)
  | (manager, .pending connection, events) =>
      let (board, more) :=
        (board.setManager i manager).put name
          { home := i, opening := true, connection := connection }
      (board, .pending, events ++ more)
  | (manager, .failed fault, events) => (board.setManager i manager, .refused fault, events)
  | (manager, .crashed fault, events) => (board.setManager i manager, .crashed fault, events)

/-- Lets the client of a connection act. -/
def withClient
    (board : Switchboard ι) (name : String) (act : Stream → Stream) :
    Switchboard ι × SwitchboardAnswer × List Event :=
  match board.held? name with
  | none => (board, .unknown, [])
  | some held =>
      (board.hold name
          { held with
            connection := { held.connection with stream := act held.connection.stream } },
        .done, [])

/-- One event. -/
def step
    (board : Switchboard ι) :
    SwitchboardStep ι → Switchboard ι × SwitchboardAnswer × List Event
  | .accept i name stream => board.takeOpening i name ((board.managers i).receiveFrom stream)
  | .write name bytes => board.withClient name fun stream => stream.write bytes
  | .finish name ending => board.withClient name fun stream => stream.finish ending
  | .receive name =>
      match board.open? name with
      | none => (board, .unknown, [])
      | some held =>
          let manager := board.managers held.home
          if held.opening then
            (board.remove name).takeOpening held.home name
              (manager.firstReceive held.connection)
          else
            let (received, connection) := held.connection.receive manager.bufferSize
            let board := board.hold name { held with connection := connection }
            let events := received.events connection.id
            match received with
            | .bytes count => (board, .received count connection.buffer, events)
            | .failed fault => (board, .failed fault connection.buffer, events)
            | .pending => (board, .pending, events)
  | .send i name =>
      match board.open? name with
      | none => (board, .unknown, [])
      | some held =>
          let (fault, connection) := held.connection.send
          let (board, crash, events) :=
            (board.remove name).closeAt i { held with connection := connection }
          (board, closing connection.stream crash, sendEvents connection.id fault ++ events)
  | .close i name =>
      match board.open? name with
      | none => (board, .unknown, [])
      | some held =>
          let (board, crash, events) := (board.remove name).closeAt i held
          (board, closing held.connection.stream crash, events)
  | .sendPart name count =>
      match board.open? name with
      | none => (board, .unknown, [])
      | some held =>
          (board.hold name { held with connection := held.connection.sendPart count },
            .pending, [])
  | .startClose i name =>
      match board.open? name with
      | none => (board, .unknown, [])
      | some held =>
          match (board.remove name).startCloseAt i name held with
          | (board, none, events) => (board, .pending, events)
          | (board, some fault, events) => (board, .crashed fault, events)
  | .endClose name =>
      match board.held? name with
      | none => (board, .unknown, [])
      | some held =>
          if held.connection.registered then (board, .unknown, [])
          else
            let (board, events) := (board.remove name).dropHeld held
            (board, .closed held.connection.stream.clientView, events)
  | .drop name =>
      let (board, events) := board.dropName name
      (board, .done, events)
  | .beat i => (board, .done, [(board.managers i).beat])

/-- Any number of events, one after the other. -/
def run (board : Switchboard ι) (steps : List (SwitchboardStep ι)) : Switchboard ι :=
  steps.foldl (fun board s => (board.step s).1) board

end Switchboard
end HttpEngine
