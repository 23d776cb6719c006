import HttpEngine.Address
import HttpEngine.IoFault

/-!
# The machine that a server runs on

A server asks its machine for a listener, for worker threads and for a thread
of its heartbeat, and a client asks it for a connection. Each of them may be
refused. A listener that asks for port zero gets a free one; otherwise a
listener has exactly the address that it asked for.
-/

namespace HttpEngine

/-- What a machine offers. -/
structure Machine where
  /-- How many processors there are. -/
  processors : Nat
  /-- The addresses of the listeners that are bound. -/
  bound : List SocketAddress
  /-- The port that a listener gets which asks for port zero. -/
  freePort : UInt16
  /-- Why an address cannot be bound. -/
  bindFault : SocketAddress → Option IoFault
  /-- Why a bound listener does not know its address. -/
  localFault : SocketAddress → Option IoFault
  /-- Why no workers can be had. -/
  workerFault : Option IoFault
  /-- Why no thread can be had. -/
  threadFault : Option IoFault
  /-- Why no client can reach a listener. -/
  networkFault : Option IoFault

namespace Machine

/-- The address that a listener has in the end. -/
def localAddress (machine : Machine) (requested : SocketAddress) : SocketAddress :=
  if requested.port = 0 then requested.withPort machine.freePort else requested

/-- Binds a listener. -/
def bind (machine : Machine) (requested : SocketAddress) : Except IoFault Machine :=
  match machine.bindFault requested with
  | some fault => .error fault
  | none =>
      let address := machine.localAddress requested
      if address ∈ machine.bound then .error .addressInUse
      else .ok { machine with bound := address :: machine.bound }

/-- Gives a listener up. -/
def unbind (machine : Machine) (address : SocketAddress) : Machine :=
  { machine with bound := machine.bound.erase address }

/-- Why a client cannot reach an address. -/
def connectFault (machine : Machine) (address : SocketAddress) : Option IoFault :=
  match machine.networkFault with
  | some fault => some fault
  | none => if address ∈ machine.bound then none else some .connectionRefused

/-- Whether an address is one of a machine without any network but itself. -/
def isOwn : IpAddress → Bool
  | .v4 ip => ip.a == 127 || ip == .unspecified
  | .v6 ip => ip == .loopback || ip == .unspecified

/-- A machine that reaches itself and nothing else. -/
def standalone (processors : Nat) : Machine :=
  { processors := processors
    bound := []
    freePort := 49152
    bindFault := fun address =>
      if isOwn address.ip then none else some .addressNotAvailable
    localFault := fun _ => none
    workerFault := none
    threadFault := none
    networkFault := none }

/-- A machine whose network is cut off: a listener can have any address, and
nobody can reach it. -/
def isolated (processors : Nat) : Machine :=
  { standalone processors with
    bindFault := fun _ => none
    networkFault := some .networkUnreachable }

end Machine
end HttpEngine
