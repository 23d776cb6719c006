import HttpEngine.Host
import HttpEngine.Limits
import HttpEngine.Route.Table

/-!
# Configuring a server

A server is configured by settings in any order: of each option the last value
given counts, and routes are registered in the order of their settings. A
number of workers that is set on its own counts whatever the server limits say,
whether it is set before or after them. Building checks the limits, those of
the server before those of a connection, and freezes the routes.
-/

namespace HttpEngine

/-- A server that is configured and not started. -/
structure Server where
  host : Host
  routes : RouteTable
  serverLimits : ServerLimits
  connectionLimits : ConnectionLimits

/-- The server as text. -/
def Server.text (server : Server) : String :=
  Text.record "Server"
    [("address", server.host.address.text),
     ("routes", toString server.routes.size),
     ("server_limits", server.serverLimits.text),
     ("connection_limits", server.connectionLimits.text)]

/-- One step of a configuration. -/
inductive Setting where
  | address (ip : IpAddress)
  | port (port : UInt16)
  | workersCount (count : Nat)
  | serverLimits (limits : ServerLimits)
  | connectionLimits (limits : ConnectionLimits)
  | route (route : Route)
  | routes (registry : Registry)

/-- What has been set so far. -/
structure Settings where
  address : Option IpAddress
  port : Option UInt16
  workersCount : Option Nat
  serverLimits : Option ServerLimits
  connectionLimits : Option ConnectionLimits
  routes : Registry

namespace Settings

/-- Nothing set. -/
def empty : Settings :=
  { address := none
    port := none
    workersCount := none
    serverLimits := none
    connectionLimits := none
    routes := .empty }

instance : Inhabited Settings := ⟨empty⟩

/-- Takes one setting. -/
def apply (settings : Settings) : Setting → Settings
  | .address ip => { settings with address := some ip }
  | .port port => { settings with port := some port }
  | .workersCount count => { settings with workersCount := some count }
  | .serverLimits limits => { settings with serverLimits := some limits }
  | .connectionLimits limits => { settings with connectionLimits := some limits }
  | .route route => { settings with routes := settings.routes.add route }
  | .routes registry => { settings with routes := settings.routes.merge registry }

/-- Takes settings one after the other. -/
def applyAll (settings : Settings) (steps : List Setting) : Settings :=
  steps.foldl apply settings

/-- The address of a server that is given none. -/
def standardAddress : IpAddress := .v4 .loopback

/-- The port of a server that is given none. -/
def standardPort : UInt16 := 8080

/-- The server limits that count, on a machine with some processors. -/
def effectiveServerLimits (settings : Settings) (processors : Nat) : ServerLimits :=
  let limits := settings.serverLimits.getD (.standard processors)
  match settings.workersCount with
  | some count => { limits with workersCount := count }
  | none => limits

/-- The connection limits that count. -/
def effectiveConnectionLimits (settings : Settings) : ConnectionLimits :=
  settings.connectionLimits.getD .standard

/-- The address and the port that count. -/
def effectiveAddress (settings : Settings) : SocketAddress :=
  .ofIp (settings.address.getD standardAddress) (settings.port.getD standardPort)

/-- Checks the limits and freezes the routes. -/
def build (settings : Settings) (processors : Nat) : Except ConfigFault Server :=
  let serverLimits := settings.effectiveServerLimits processors
  let connectionLimits := settings.effectiveConnectionLimits
  match Check.firstFault (serverLimits.checks ++ connectionLimits.checks) with
  | some fault => .error fault
  | none =>
      .ok
        { host := .new settings.effectiveAddress
          routes := settings.routes.freeze
          serverLimits := serverLimits
          connectionLimits := connectionLimits }

/-- The settings as text. -/
def text (settings : Settings) : String :=
  Text.record "ServerBuilder"
    [("address", Text.optional (settings.address.map IpAddress.text)),
     ("port", Text.optional (settings.port.map fun port => toString port.toNat)),
     ("workers_count", Text.optional (settings.workersCount.map toString)),
     ("server_limits", Text.optional (settings.serverLimits.map ServerLimits.text)),
     ("connection_limits", Text.optional (settings.connectionLimits.map ConnectionLimits.text)),
     ("routes", toString settings.routes.size)]

end Settings
end HttpEngine
