import HttpEngine.Bytes

/-!
# Streams between a client and the server

A stream carries bytes both ways. What the client writes waits in pieces, as
the network delivers it; a receive takes bytes from one piece only, as many as
the receiver has room for. What the server sends arrives at the client at once.

The client may close its sending side, after which receives find the end of the
stream, or break the stream off, after which one receive reports the breach and
nothing can be sent any more. Both come after the bytes that still wait.
-/

namespace HttpEngine

/-- How the client's side of a stream stands. -/
inductive StreamEnd where
  /-- The client may go on writing. -/
  | ongoing
  /-- The client has closed its sending side. -/
  | finished
  /-- The client has broken the stream off, which no receive has reported. -/
  | reset
  /-- The client has broken the stream off, and a receive has reported it. -/
  | broken
deriving Repr, DecidableEq

/-- The bytes that wait to be received, how the client's side stands, and the
bytes that have been sent to the client. -/
structure Stream where
  waiting : List Bytes
  ending : StreamEnd
  sent : Bytes
deriving Repr, DecidableEq

/-- What a receive finds. -/
inductive Receipt where
  /-- Bytes, at least one. -/
  | bytes (bytes : Bytes)
  /-- The end of the stream. -/
  | finished
  /-- A breach. -/
  | reset
  /-- Nothing yet. -/
  | pending
deriving Repr, DecidableEq

namespace Stream

/-- A stream on which nothing has happened. -/
def fresh : Stream :=
  { waiting := [], ending := .ongoing, sent := [] }

/-- A stream on which the client has written pieces and then closed its sending
side. -/
def ofPieces (pieces : List Bytes) : Stream :=
  { waiting := pieces, ending := .finished, sent := [] }

/-- All bytes that wait. -/
def content (stream : Stream) : Bytes :=
  stream.waiting.flatten

/-- The client writes; the bytes join the piece that was written last. -/
def write (stream : Stream) (bytes : Bytes) : Stream :=
  match stream.waiting.getLast? with
  | none => { stream with waiting := [bytes] }
  | some last => { stream with waiting := stream.waiting.dropLast ++ [last ++ bytes] }

/-- The client ends its side. -/
def finish (stream : Stream) (ending : StreamEnd) : Stream :=
  { stream with ending := ending }

/-- The client has broken the stream off. -/
def isBroken (stream : Stream) : Bool :=
  stream.ending == .reset || stream.ending == .broken

/-- How many bytes a receive takes at most. A buffer without any room makes
some before it is filled. -/
def room (bufferSize : Nat) : Nat :=
  if bufferSize = 0 then 64 else bufferSize

/-- There is always room for a byte. -/
theorem room_pos (bufferSize : Nat) : 0 < room bufferSize := by
  unfold room
  split
  · decide
  · omega

/-- Takes what a buffer of some size has room for. -/
def receive (stream : Stream) (bufferSize : Nat) : Receipt × Stream :=
  match stream.waiting.dropWhile List.isEmpty with
  | piece :: rest =>
      (.bytes (piece.take (room bufferSize)),
        { stream with waiting := piece.drop (room bufferSize) :: rest })
  | [] =>
      match stream.ending with
      | .ongoing => (.pending, { stream with waiting := [] })
      | .finished => (.finished, { stream with waiting := [] })
      | .reset => (.reset, { stream with waiting := [], ending := .broken })
      | .broken => (.finished, { stream with waiting := [] })

/-- Sends bytes to the client, which fails on a broken stream. Sending nothing
never fails. -/
def send? (stream : Stream) (bytes : Bytes) : Option Stream :=
  if bytes.isEmpty then some stream
  else if stream.isBroken then none
  else some { stream with sent := stream.sent ++ bytes }

/-- What the client has read in the end, unless it has broken the stream
off. -/
def clientView (stream : Stream) : Option Bytes :=
  if stream.isBroken then none else some stream.sent

/-- Empty pieces carry nothing. -/
theorem flatten_dropWhile_isEmpty (pieces : List Bytes) :
    (pieces.dropWhile List.isEmpty).flatten = pieces.flatten := by
  induction pieces with
  | nil => rfl
  | cons piece rest ih =>
      cases piece with
      | nil => simpa using ih
      | cons b bs => rfl

/-- A receive that finds bytes takes them from the front of what waits. -/
theorem content_of_receive_bytes
    {stream rest : Stream} {bufferSize : Nat} {bytes : Bytes}
    (hreceive : stream.receive bufferSize = (.bytes bytes, rest)) :
    stream.content = bytes ++ rest.content := by
  unfold receive at hreceive
  split at hreceive
  · next piece tail hdrop =>
      simp only [Prod.mk.injEq, Receipt.bytes.injEq] at hreceive
      obtain ⟨rfl, rfl⟩ := hreceive
      rw [content, ← flatten_dropWhile_isEmpty, hdrop]
      simp [content, ← List.append_assoc]
  · split at hreceive <;> simp at hreceive

/-- A receive that finds bytes finds at least one. -/
theorem ne_nil_of_receive_bytes
    {stream rest : Stream} {bufferSize : Nat} {bytes : Bytes}
    (hreceive : stream.receive bufferSize = (.bytes bytes, rest)) :
    bytes ≠ [] := by
  unfold receive at hreceive
  split at hreceive
  · next piece tail hdrop =>
      simp only [Prod.mk.injEq, Receipt.bytes.injEq] at hreceive
      obtain ⟨rfl, -⟩ := hreceive
      have hhead := List.head?_dropWhile_not List.isEmpty stream.waiting
      rw [hdrop] at hhead
      have hroom := room_pos bufferSize
      cases piece with
      | nil => simp at hhead
      | cons b bs =>
          obtain ⟨n, hn⟩ : ∃ n, room bufferSize = n + 1 := ⟨room bufferSize - 1, by omega⟩
          simp [hn]
  · split at hreceive <;> simp at hreceive

/-- A receive that finds bytes leaves fewer to wait. -/
theorem length_lt_of_receive_bytes
    {stream rest : Stream} {bufferSize : Nat} {bytes : Bytes}
    (hreceive : stream.receive bufferSize = (.bytes bytes, rest)) :
    rest.content.length < stream.content.length := by
  have hlength := List.length_pos_iff.mpr (ne_nil_of_receive_bytes hreceive)
  rw [content_of_receive_bytes hreceive, List.length_append]
  omega

/-- A receive that finds no bytes leaves none to wait. -/
theorem content_of_receive_finished
    {stream rest : Stream} {bufferSize : Nat}
    (hreceive : stream.receive bufferSize = (.finished, rest)) :
    rest.content = [] := by
  unfold receive at hreceive
  split at hreceive
  · simp at hreceive
  · split at hreceive <;> simp at hreceive <;> subst hreceive <;> rfl

end Stream
end HttpEngine
