import HttpEngine.Response

/-!
# The header line of the host

The line that is kept beside an address is the header line of that address, also after
the address has been changed. So every response has the header line of the address that
is advertised when it is written.
-/

namespace HttpEngine
namespace Host

/-- The header line of a host is that of its address. -/
def Rendered (host : Host) : Prop :=
  host.line = lineOf host.address

variable {host next : Host}

theorem Rendered.of_setAddress?
    {ip : IpAddress} {port : UInt16} (hset : host.setAddress? ip port = some next) :
    next.Rendered := by
  unfold setAddress? at hset
  split at hset
  · contradiction
  · obtain rfl := Option.some.inj hset
    rfl

theorem listening_of_setAddress?
    {ip : IpAddress} {port : UInt16} (hset : host.setAddress? ip port = some next) :
    host.listening = false ∧ next.listening = false := by
  unfold setAddress? at hset
  split at hset
  · contradiction
  · next hlistening =>
      obtain rfl := Option.some.inj hset
      have hfree : host.listening = false := Bool.eq_false_iff.mpr hlistening
      exact ⟨hfree, hfree⟩

end Host

/-- A response with the header line of an address. -/
def Response.Names (address : SocketAddress) (bytes : Bytes) : Prop :=
  ∃ reply : Reply,
    bytes = statusLine reply.status ++ Host.lineOf address ++ tail reply.payload

theorem Host.Rendered.names_render {host : Host} (h : host.Rendered) (reply : Reply) :
    Response.Names host.address (Response.render host reply) :=
  ⟨reply, by rw [Response.render, h]⟩

end HttpEngine
