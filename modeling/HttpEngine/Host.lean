import HttpEngine.Address.Text
import HttpEngine.Bytes

/-!
# The advertised host

Every response names the address of the server. The header line with the
address is rendered once per change and kept beside it. While a listener is
bound the address cannot be changed.
-/

namespace HttpEngine

/-- The advertised address, its header line, and whether a listener is bound. -/
structure Host where
  address : SocketAddress
  line : Bytes
  listening : Bool
deriving Repr, DecidableEq

namespace Host

/-- The header line that names an address. -/
def lineOf (address : SocketAddress) : Bytes :=
  Bytes.ofText ("Host: " ++ address.text) ++ Bytes.lineEnd

/-- A host that advertises an address, without a listener. -/
def new (address : SocketAddress) : Host :=
  { address := address, line := lineOf address, listening := false }

/-- Advertises another address, whether a listener is bound or not. -/
def refresh (host : Host) (address : SocketAddress) : Host :=
  { host with address := address, line := lineOf address }

/-- Advertises another address unless a listener is bound. -/
def setAddress?
    (host : Host) (ip : IpAddress) (port : UInt16) :
    Option Host :=
  if host.listening then none else some (host.refresh (.ofIp ip port))

/-- Notes whether a listener is bound. -/
def setListening (host : Host) (listening : Bool) : Host :=
  { host with listening := listening }

end Host
end HttpEngine
