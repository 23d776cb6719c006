import HttpEngine.Host
import HttpEngine.Reply

/-!
# Responses on the wire

A response is a status line, the host line, for a payload also its type and its
length, an empty line, and the payload. Responses are appended to a buffer and
leave what it holds alone.
-/

namespace HttpEngine
namespace Response

/-- The first line of a response. -/
def statusLine (status : Status) : Bytes :=
  Bytes.ofText ("HTTP/1.1 " ++ status.text) ++ Bytes.lineEnd

/-- The header lines that announce a payload. -/
def payloadLines (payload : Bytes) : Bytes :=
  Bytes.ofText "Content-Type: text/plain" ++ Bytes.lineEnd ++
    Bytes.ofText "Content-Length: " ++ Decimal.ofNat payload.length ++ Bytes.lineEnd

/-- What follows the host line. -/
def tail : Option Bytes → Bytes
  | none => Bytes.lineEnd
  | some payload => payloadLines payload ++ Bytes.lineEnd ++ payload

/-- The bytes of a response. -/
def render (host : Host) (reply : Reply) : Bytes :=
  statusLine reply.status ++ host.line ++ tail reply.payload

/-- Appends a response to a buffer. -/
def append (host : Host) (reply : Reply) (buffer : Bytes) : Bytes :=
  buffer ++ render host reply

/-- Appends a response without a payload. -/
def appendStatus (host : Host) (status : Status) (buffer : Bytes) : Bytes :=
  append host (.bare status) buffer

/-- Appends a response whose status is given by its number; an unknown number
leaves the buffer as it is. -/
def appendCode
    (host : Host) (code : Nat) (payload : Option Bytes) (buffer : Bytes) :
    Except UnknownStatus Bytes :=
  match Status.ofCode? code with
  | some status => .ok (append host { status := status, payload := payload } buffer)
  | none => .error ⟨code⟩

end Response
end HttpEngine
