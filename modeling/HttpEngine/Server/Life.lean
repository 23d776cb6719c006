import HttpEngine.Heartbeat
import HttpEngine.Machine
import HttpEngine.Server.Fault
import HttpEngine.Service
import HttpEngine.Settings

/-!
# The life of a server

A configured server is started once. Starting binds the listener, asks for the
heartbeat, and only then advertises the address that the listener really has.
From then on until the end the advertised address cannot be changed:

* while the server accepts, clients come and are served side by side;
* when it was told to stop, accepting ends, and the clients that were accepted
  are still served;
* when the last of them is done, the server has stopped.

A start that fails leaves the advertised address, its header line and the note
that says whether a listener is bound as they were.
-/

namespace HttpEngine

/-- How far a server has come. -/
inductive Course where
  /-- It has not been started. -/
  | configured
  /-- It accepts clients at an address. -/
  | accepting (address : SocketAddress)
  /-- It accepts no more and serves those it has accepted. -/
  | draining (address : SocketAddress)
  /-- It has stopped; that was its address. -/
  | stopped (address : SocketAddress)
  /-- It could not be started. -/
  | failed (fault : ServerFault)
deriving Repr, DecidableEq

/-- A server, its machine, its clients, and whether it was told to stop. -/
structure Life where
  machine : Machine
  server : Server
  service : Service
  course : Course
  cancelled : Bool

/-- One event in the life of a server. -/
inductive LifeStep where
  /-- Somebody wants another address to be advertised. -/
  | setAddress (ip : IpAddress) (port : UInt16)
  /-- The server is started. -/
  | start
  /-- A client is accepted. -/
  | accept (stream : Stream)
  /-- The task of a client goes on. -/
  | advance (task : Nat)
  /-- The task of a client is aborted. -/
  | abort (task : Nat)
  /-- The server is told to stop. -/
  | cancel
  /-- Accepting ends because the server was told to stop. -/
  | endAccepting
  /-- The server stops because all clients are done. -/
  | settle

/-- What a life event answers. -/
inductive LifeAnswer where
  | done
  /-- The address cannot be changed. -/
  | refused (fault : ConfigFault)
  /-- The server has started, at that address. -/
  | started (address : SocketAddress)
  /-- The server could not be started. -/
  | failed (fault : ServerFault)
  /-- Now is not the time. -/
  | notNow
deriving Repr, DecidableEq

namespace Life

/-- The life of a server that was just configured. -/
def new (machine : Machine) (server : Server) : Life :=
  { machine := machine
    server := server
    service := .new server.serverLimits
    course := .configured
    cancelled := false }

/-- The advertised host. -/
def host (life : Life) : Host :=
  life.server.host

/-- What the server answers requests from. -/
def site (life : Life) : Site :=
  { routes := life.server.routes, host := life.server.host }

/-- Replaces the advertised host. -/
def setHost (life : Life) (host : Host) : Life :=
  { life with server := { life.server with host := host } }

/-- The heartbeat of a server reports on the connections at every interval. -/
def heartbeat (server : Server) : Heartbeat :=
  (Heartbeat.new server.serverLimits.heartbeatInterval).register fun _ => none

/-- Binds the listener of a server and asks for its heartbeat. -/
def prepare
    (machine : Machine) (server : Server) :
    Except ServerFault (Machine × SocketAddress) :=
  let requested := server.host.address
  match machine.bind requested with
  | .error fault => .error (.bind requested fault)
  | .ok machine =>
      let address := machine.localAddress requested
      match machine.localFault address with
      | some fault => .error (.bind requested fault)
      | none =>
          match (heartbeat server).start, machine.threadFault with
          | some _, some fault => .error (.heartbeat fault)
          | _, _ => .ok (machine, address)

/-- The host as a server advertises it while it runs at an address. -/
def advertise (host : Host) (address : SocketAddress) : Host :=
  (if address = host.address then host else host.refresh address).setListening true

/-- One event. -/
def step (life : Life) : LifeStep → Life × LifeAnswer × List Event
  | .setAddress ip port =>
      match life.host.setAddress? ip port with
      | some host => (life.setHost host, .done, [])
      | none => (life, .refused .listenerActive, [])
  | .start =>
      match life.course with
      | .configured =>
          match prepare life.machine life.server with
          | .error fault => ({ life with course := .failed fault }, .failed fault, [])
          | .ok (machine, address) =>
              ({ life.setHost (advertise life.host address) with
                  machine := machine
                  course := .accepting address },
                .started address, [])
      | _ => (life, .notNow, [])
  | .accept stream =>
      match life.course with
      | .accepting _ =>
          let (service, events) := life.service.step life.site (.accept stream)
          ({ life with service := service }, .done, events)
      | _ => (life, .notNow, [])
  | .advance task =>
      let (service, events) := life.service.step life.site (.advance task)
      ({ life with service := service }, .done, events)
  | .abort task =>
      let (service, events) := life.service.step life.site (.abort task)
      ({ life with service := service }, .done, events)
  | .cancel => ({ life with cancelled := true }, .done, [])
  | .endAccepting =>
      match life.course with
      | .accepting address =>
          if life.cancelled then
            ({ life with machine := life.machine.unbind address, course := .draining address },
              .done, [])
          else (life, .notNow, [])
      | _ => (life, .notNow, [])
  | .settle =>
      match life.course with
      | .draining address =>
          if life.service.isIdle then
            ({ life.setHost (life.host.setListening false) with course := .stopped address },
              .done, [])
          else (life, .notNow, [])
      | _ => (life, .notNow, [])

/-- Any number of events, one after the other. -/
def run (life : Life) (steps : List LifeStep) : Life :=
  steps.foldl (fun life s => (life.step s).1) life

/-- The address at which the server runs or ran. -/
def address? (life : Life) : Option SocketAddress :=
  match life.course with
  | .accepting address => some address
  | .draining address => some address
  | .stopped address => some address
  | _ => none

/-- A client comes and is served before any other. -/
def serve (life : Life) (stream : Stream) : Life × Option Bytes :=
  match life.course with
  | .accepting _ =>
      let (service, task) := life.service.serve life.site stream
      ({ life with service := service }, task.sent?)
  | _ => (life, none)

/-- Tells the server to stop and lets it come to its end. -/
def stop (life : Life) : Life :=
  life.run [.cancel, .endAccepting, .settle]

/-- Starts the server and lets it run until it is told to stop, which it
already was. -/
def runCancelled (life : Life) : Life × Except ServerFault Unit :=
  match life.step .start with
  | (life, .failed fault, _) => (life, .error fault)
  | (life, _, _) => (life.stop, .ok ())

/-- The same, with workers of its own. -/
def runCancelledBlocking (life : Life) : Life × Except ServerFault Unit :=
  match life.machine.workerFault with
  | some fault => (life, .error (.runtime fault))
  | none => life.runCancelled

end Life
end HttpEngine
