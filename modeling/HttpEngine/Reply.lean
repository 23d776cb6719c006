import HttpEngine.Payload
import HttpEngine.Status

/-!
# Replies

A reply is what a handler makes of a request: a status and, perhaps, a payload.
An empty payload is a payload; it is not the same as none.
-/

namespace HttpEngine

/-- A status with an optional payload. -/
structure Reply where
  status : Status
  payload : Option Bytes
deriving Repr, DecidableEq

namespace Reply

/-- A reply without a payload. -/
def bare (status : Status) : Reply :=
  { status := status, payload := none }

/-- A reply whose payload is one part. -/
def ofPart (status : Status) (part : Part) : Reply :=
  { status := status, payload := some (part.write []) }

/-- A reply whose payload is put together from parts. -/
def ofParts (status : Status) (parts : List Part) : Reply :=
  { status := status, payload := some (Part.writeAll parts []) }

end Reply
end HttpEngine
