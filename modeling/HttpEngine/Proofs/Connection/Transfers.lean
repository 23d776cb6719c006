import HttpEngine.Connection

/-!
# What transfers move and what they leave alone

A receive moves bytes from the stream into the buffer: buffer and stream then
hold together what the stream held before, and an empty buffer means that the
stream had nothing to give. All else that a connection is stays: its number, its
slot, its request, whether it is registered, what it has sent, and how the
client's side stands.

A send moves the buffer to the client, unless the client has broken the stream
off.
-/

namespace HttpEngine
namespace Stream

/-- Two streams that differ at most in the bytes that wait and in whether a breach
has been reported. -/
structure Alike (first second : Stream) : Prop where
  sent_eq : second.sent = first.sent
  broken_eq : second.isBroken = first.isBroken
  ongoing_iff : second.ending = .ongoing ↔ first.ending = .ongoing

theorem Alike.refl (stream : Stream) : Alike stream stream :=
  ⟨rfl, rfl, Iff.rfl⟩

theorem Alike.trans
    {a b c : Stream} (hab : Alike a b) (hbc : Alike b c) :
    Alike a c :=
  { sent_eq := hbc.sent_eq.trans hab.sent_eq
    broken_eq := hbc.broken_eq.trans hab.broken_eq
    ongoing_iff := hbc.ongoing_iff.trans hab.ongoing_iff }

variable (stream : Stream)
variable (bufferSize : Nat)

theorem sent_receive : (stream.receive bufferSize).2.sent = stream.sent := by
  unfold receive
  split
  · rfl
  · split <;> rfl

theorem isBroken_receive : (stream.receive bufferSize).2.isBroken = stream.isBroken := by
  unfold receive
  split
  · rfl
  · split
    · rfl
    · rfl
    · next hending => simp [isBroken, hending]
    · rfl

theorem ending_receive_eq_ongoing_iff :
    (stream.receive bufferSize).2.ending = .ongoing ↔ stream.ending = .ongoing := by
  unfold receive
  split
  · rfl
  · split <;> simp [*]

theorem alike_receive : Alike stream (stream.receive bufferSize).2 :=
  { sent_eq := stream.sent_receive bufferSize
    broken_eq := stream.isBroken_receive bufferSize
    ongoing_iff := stream.ending_receive_eq_ongoing_iff bufferSize }

/-- A receive finds bytes, or nothing waits and the client's side decides. -/
theorem receive_cases :
    (∃ bytes rest, stream.receive bufferSize = (.bytes bytes, rest)) ∨
      stream.content = [] ∧
        (stream.ending = .ongoing ∧
            stream.receive bufferSize = (.pending, { stream with waiting := [] }) ∨
          stream.ending ≠ .ongoing ∧
            stream.receive bufferSize = (.finished, { stream with waiting := [] }) ∨
          stream.ending ≠ .ongoing ∧
            stream.receive bufferSize =
              (.reset, { stream with waiting := [], ending := .broken })) := by
  cases hdrop : stream.waiting.dropWhile List.isEmpty with
  | cons piece rest =>
      refine
        Or.inl
          ⟨piece.take (room bufferSize),
            { stream with waiting := piece.drop (room bufferSize) :: rest }, ?_⟩
      simp only [receive, hdrop]
  | nil =>
      have hcontent : stream.content = [] := by
        rw [content, ← flatten_dropWhile_isEmpty, hdrop, List.flatten_nil]
      refine Or.inr ⟨hcontent, ?_⟩
      cases hending : stream.ending with
      | ongoing => simp [receive, hdrop, hending]
      | finished => simp [receive, hdrop, hending]
      | reset => simp [receive, hdrop, hending]
      | broken => simp [receive, hdrop, hending]

end Stream

namespace Connection

/-- `next` stands for the same entry and holds the same slot as `connection`. -/
structure Keeps (connection next : Connection) : Prop where
  id_eq : next.id = connection.id
  slot_eq : next.slot.number = connection.slot.number
  registered_eq : next.registered = connection.registered

/-- `next` is `connection` after some of the client's bytes have been read. -/
structure ReadsOn (connection next : Connection) : Prop extends Keeps connection next where
  stream_alike : connection.stream.Alike next.stream

/-- How a receive can come out, and what it means. -/
inductive ReceiveStep (connection next : Connection) : Received → Prop
  | bytes {count : Nat}
      (hend : next.buffer = [] → connection.stream.content = [] ∧
        connection.stream.ending ≠ .ongoing) :
      ReceiveStep connection next (.bytes count)
  | failed {fault : IoFault}
      (hempty : next.buffer = [])
      (hcontent : connection.stream.content = [])
      (hended : connection.stream.ending ≠ .ongoing) :
      ReceiveStep connection next (.failed fault)
  | pending
      (hempty : next.buffer = [])
      (hcontent : connection.stream.content = [])
      (hongoing : connection.stream.ending = .ongoing) :
      ReceiveStep connection next .pending

variable (connection : Connection)
variable (bufferSize : Nat)

theorem stream_receive :
    (connection.receive bufferSize).2.stream = (connection.stream.receive bufferSize).2 := by
  rw [receive]
  cases connection.stream.receive bufferSize with
  | mk receipt stream => cases receipt <;> rfl

theorem readsOn_receive : ReadsOn connection (connection.receive bufferSize).2 := by
  have hstream := stream_receive connection bufferSize
  refine ⟨⟨?_, ?_, ?_⟩, ?_⟩
  · unfold receive
    split <;> rfl
  · unfold receive
    split <;> rfl
  · unfold receive
    split <;> rfl
  · rw [hstream]
    exact connection.stream.alike_receive bufferSize

theorem request_receive :
    (connection.receive bufferSize).2.request = connection.request := by
  unfold receive
  split <;> rfl

/-- Buffer and stream hold together what the stream held. -/
theorem content_receive :
    connection.stream.content =
      (connection.receive bufferSize).2.buffer ++
        (connection.receive bufferSize).2.stream.content := by
  rcases connection.stream.receive_cases bufferSize with
    ⟨bytes, rest, hreceive⟩ | ⟨hcontent, ⟨-, hreceive⟩ | ⟨-, hreceive⟩ | ⟨-, hreceive⟩⟩
  · rw [Stream.content_of_receive_bytes hreceive, receive, hreceive]
    rfl
  · rw [hcontent, receive, hreceive]
    rfl
  · rw [hcontent, receive, hreceive]
    rfl
  · rw [hcontent, receive, hreceive]
    rfl

theorem receiveStep_receive :
    ReceiveStep connection (connection.receive bufferSize).2
      (connection.receive bufferSize).1 := by
  rcases connection.stream.receive_cases bufferSize with
    ⟨bytes, rest, hreceive⟩ |
      ⟨hcontent, ⟨hongoing, hreceive⟩ | ⟨hended, hreceive⟩ | ⟨hended, hreceive⟩⟩
  · rw [receive, hreceive]
    exact .bytes fun hempty => absurd hempty (Stream.ne_nil_of_receive_bytes hreceive)
  · rw [receive, hreceive]
    exact .pending rfl hcontent hongoing
  · rw [receive, hreceive]
    exact .bytes fun _ => ⟨hcontent, hended⟩
  · rw [receive, hreceive]
    exact .failed rfl hcontent hended

theorem keeps_send : Keeps connection connection.send.2 := by
  unfold send
  split <;> exact ⟨rfl, rfl, rfl⟩

theorem keeps_sendPart (count : Nat) : Keeps connection (connection.sendPart count) := by
  unfold sendPart
  split <;> exact ⟨rfl, rfl, rfl⟩

/-- A client that has broken the stream off is sent nothing. -/
theorem sent_send :
    connection.send.2.stream.sent =
      if connection.stream.isBroken then connection.stream.sent
      else connection.stream.sent ++ connection.buffer := by
  unfold send Stream.send?
  by_cases hempty : connection.buffer = []
  · simp [hempty]
  · by_cases hbroken : connection.stream.isBroken = true
    · simp [hempty, hbroken]
    · simp [hempty, hbroken]

end Connection
end HttpEngine
