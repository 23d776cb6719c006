import HttpEngine.Event
import HttpEngine.IoFault
import HttpEngine.Stream

/-!
# Connections

A connection is one client that is being served: its number, its stream, the
slot that holds its buffer, and the request once it has been read. The buffer
holds the bytes of the last receive and, later, the response.

Slots are reused. A slot is prepared for its next connection, which finds its
buffer empty.
-/

namespace HttpEngine

/-- A reusable buffer, numbered in the order of making, and the last operation
that used it. -/
structure Slot where
  number : Nat
  buffer : Bytes
  lastTransfer : Option Transfer
deriving Repr, DecidableEq

namespace Slot

/-- A slot that has never been used. -/
def new (number : Nat) : Slot :=
  { number := number, buffer := [], lastTransfer := none }

/-- A slot made ready for another connection. -/
def prepare (slot : Slot) : Slot :=
  { slot with buffer := [], lastTransfer := none }

end Slot

/-- A client that is being served. -/
structure Connection where
  id : Nat
  stream : Stream
  slot : Slot
  request : Option Request
  /-- Whether the connection still stands for an entry in the active table. -/
  registered : Bool

/-- What became of a receive. -/
inductive Received where
  /-- That many bytes are in the buffer; none means the end of the stream. -/
  | bytes (count : Nat)
  /-- The stream has failed. -/
  | failed (fault : IoFault)
  /-- The client has to write first. -/
  | pending
deriving Repr, DecidableEq

/-- What a receive on a connection reports. -/
def Received.events (connection : Nat) : Received → List Event
  | .failed _ => [.transferFailed connection .receive]
  | _ => []

/-- What a send on a connection reports. -/
def sendEvents (connection : Nat) : Option IoFault → List Event
  | some _ => [.transferFailed connection .send]
  | none => []

namespace Connection

/-- The contents of the buffer. -/
def buffer (connection : Connection) : Bytes :=
  connection.slot.buffer

/-- Replaces the contents of the buffer. -/
def setBuffer (connection : Connection) (bytes : Bytes) : Connection :=
  { connection with slot := { connection.slot with buffer := bytes } }

/-- Notes the last operation and how it left the stream. -/
def noteTransfer
    (connection : Connection) (transfer : Transfer) (stream : Stream) :
    Connection :=
  { connection with
    stream := stream
    slot := { connection.slot with lastTransfer := some transfer } }

/-- Replacing the buffer leaves the new contents in it. -/
@[simp]
theorem buffer_setBuffer (connection : Connection) (bytes : Bytes) :
    (connection.setBuffer bytes).buffer = bytes := rfl

/-- Replacing the buffer does not touch the stream. -/
@[simp]
theorem stream_setBuffer (connection : Connection) (bytes : Bytes) :
    (connection.setBuffer bytes).stream = connection.stream := rfl

/-- Noting an operation does not touch the buffer. -/
@[simp]
theorem buffer_noteTransfer (connection : Connection) (transfer : Transfer) (stream : Stream) :
    (connection.noteTransfer transfer stream).buffer = connection.buffer := rfl

/-- Noting an operation puts the stream in place. -/
@[simp]
theorem stream_noteTransfer (connection : Connection) (transfer : Transfer) (stream : Stream) :
    (connection.noteTransfer transfer stream).stream = stream := rfl

/-- Replaces the contents of the buffer by the next bytes from the client. The
buffer is emptied first, whatever the receive finds. -/
def receive (connection : Connection) (bufferSize : Nat) : Received × Connection :=
  let empty := connection.setBuffer []
  match connection.stream.receive bufferSize with
  | (.bytes bytes, stream) =>
      (.bytes bytes.length, (empty.noteTransfer .receive stream).setBuffer bytes)
  | (.finished, stream) => (.bytes 0, empty.noteTransfer .receive stream)
  | (.reset, stream) => (.failed .connectionReset, empty.noteTransfer .receive stream)
  | (.pending, stream) => (.pending, { empty with stream := stream })

/-- Sends the contents of the buffer. -/
def send (connection : Connection) : Option IoFault × Connection :=
  match connection.stream.send? connection.buffer with
  | some stream => (none, connection.noteTransfer .send stream)
  | none => (some .connectionReset, connection.noteTransfer .send connection.stream)

/-- Sends the beginning of the buffer; the buffer keeps what has not gone out. -/
def sendPart (connection : Connection) (count : Nat) : Connection :=
  match connection.stream.send? (connection.buffer.take count) with
  | some stream =>
      { connection with stream := stream }.setBuffer (connection.buffer.drop count)
  | none => connection

end Connection
end HttpEngine
