/-!
# Network addresses

An address is that of the fourth or of the sixth version of the internet
protocol. A socket address joins it with a port; for the sixth version it also
names the scope in which the address is meant, zero when there is none.
-/

namespace HttpEngine

/-- An address of the fourth version: four numbers of eight bits. -/
structure Ipv4 where
  a : UInt8
  b : UInt8
  c : UInt8
  d : UInt8
deriving Repr, DecidableEq

/-- An address of the sixth version: eight groups of sixteen bits. -/
structure Ipv6 where
  groups : Vector UInt16 8
deriving Repr, DecidableEq

/-- An address of either version. -/
inductive IpAddress where
  | v4 (ip : Ipv4)
  | v6 (ip : Ipv6)
deriving Repr, DecidableEq

/-- Where a listener can be reached. -/
inductive SocketAddress where
  | v4 (ip : Ipv4) (port : UInt16)
  | v6 (ip : Ipv6) (port : UInt16) (scope : UInt32)
deriving Repr, DecidableEq

/-- The address by which a machine reaches itself. -/
def Ipv4.loopback : Ipv4 := ⟨127, 0, 0, 1⟩

/-- The address that stands for every address of a machine. -/
def Ipv4.unspecified : Ipv4 := ⟨0, 0, 0, 0⟩

/-- The same for the sixth version. -/
def Ipv6.loopback : Ipv6 := ⟨#v[0, 0, 0, 0, 0, 0, 0, 1]⟩

/-- The sixth version's address that stands for every address of a machine. -/
def Ipv6.unspecified : Ipv6 := ⟨#v[0, 0, 0, 0, 0, 0, 0, 0]⟩

namespace SocketAddress

/-- An address and a port, without a scope. -/
def ofIp (ip : IpAddress) (port : UInt16) : SocketAddress :=
  match ip with
  | .v4 ip => .v4 ip port
  | .v6 ip => .v6 ip port 0

/-- The address without its port. -/
def ip : SocketAddress → IpAddress
  | .v4 ip _ => .v4 ip
  | .v6 ip _ _ => .v6 ip

/-- The port. -/
def port : SocketAddress → UInt16
  | .v4 _ port => port
  | .v6 _ port _ => port

/-- The same address with another port. -/
def withPort (address : SocketAddress) (port : UInt16) : SocketAddress :=
  match address with
  | .v4 ip _ => .v4 ip port
  | .v6 ip _ scope => .v6 ip port scope

end SocketAddress
end HttpEngine
