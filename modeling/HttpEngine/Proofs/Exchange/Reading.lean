import HttpEngine.Exchange
import HttpEngine.Proofs.Connection.Transfers
import HttpEngine.Proofs.Request.Chunking
import HttpEngine.Proofs.Request.Reuse

/-!
# How an exchange gets through the bytes of its client

What a client sends is at any time in three parts: the bytes that the parser has
been fed, the bytes in the buffer, and the bytes that wait in the stream. Looking
at the buffer moves its bytes to the parser, and a receive moves bytes from the
stream to the buffer. As long as the exchange goes on, the parser has asked for
more.

What a look and a receive lead to is said here once, in terms of all the bytes
of the client.
-/

namespace HttpEngine
namespace Parser

theorem feed_nil_new : Parser.new.feed [] = Parser.new := by
  rw [feed_eq_advance, advance_nil]

/-- Bytes after a final report change nothing. -/
theorem feed_append_of_report_ne
    {parser : Parser} {bytes : Bytes} (more : Bytes)
    (hreport : (parser.feed bytes).report ≠ .ok .more) :
    parser.feed (bytes ++ more) = parser.feed bytes := by
  rw [← feed_feed, feed_of_report_ne more hreport]

end Parser

namespace Site

/-- The reply to a request. -/
def reply (site : Site) (request : Request) : Reply :=
  (site.replyTo 0 request).1

/-- The number of the connection shows only in what is reported. -/
theorem replyTo_fst (site : Site) (connection : Nat) (request : Request) :
    (site.replyTo connection request).1 = site.reply request := by
  unfold reply replyTo
  cases site.routes.handlerOf request with
  | none => rfl
  | some handler =>
      simp only
      cases handler request <;> rfl

end Site

namespace Exchange

/-- Of some bytes that a client sends, the first ones have been read, and the
others wait. -/
structure Awaits (content before : Bytes) (connection : Connection) : Prop where
  more : (Parser.new.feed before).report = .ok .more
  total : before ++ connection.stream.content = content

/-- Of some bytes that a client sends, the first ones have been read, the next ones
are in the buffer, and the others wait. -/
structure Holds (content before : Bytes) (connection : Connection) : Prop where
  more : (Parser.new.feed before).report = .ok .more
  total : before ++ (connection.buffer ++ connection.stream.content) = content
  dry : connection.buffer = [] → connection.stream.content = []

/-- A connection that nothing has been read from yet awaits all that its stream
has to give. -/
theorem awaits_nil
    {content : Bytes} {connection : Connection}
    (hcontent : connection.stream.content = content) :
    Awaits content [] connection :=
  { more := by
      rw [Parser.feed_nil_new]
      rfl
    total := hcontent }

/-- A receive moves bytes into the buffer, as many as there are. -/
theorem Awaits.holds_receive
    {content before : Bytes} {connection : Connection}
    (h : Awaits content before connection) (bufferSize : Nat) :
    Holds content before (connection.receive bufferSize).2 := by
  have hcontent := connection.content_receive bufferSize
  have hstep := connection.receiveStep_receive bufferSize
  generalize connection.receive bufferSize = received at *
  obtain ⟨receipt, next⟩ := received
  refine ⟨h.more, by rw [← hcontent, h.total], ?_⟩
  intro hempty
  have hnone : connection.stream.content = [] := by
    cases hstep with
    | bytes hend => exact (hend hempty).1
    | failed _ hnone _ => exact hnone
    | pending _ hnone _ => exact hnone
  rw [hnone] at hcontent
  exact (List.append_eq_nil_iff.mp hcontent.symm).2

/-- What a receive leads to. -/
inductive AfterReceive
    (content before : Bytes) (connection next : Connection) : Received → Prop
  | bytes {count : Nat}
      (hholds : Holds content before next)
      (hended : next.buffer = [] → connection.stream.ending ≠ .ongoing) :
      AfterReceive content before connection next (.bytes count)
  | failed {fault : IoFault}
      (hreport : (Parser.new.feed content).report = .ok .more)
      (hempty : next.buffer = [])
      (hended : connection.stream.ending ≠ .ongoing) :
      AfterReceive content before connection next (.failed fault)
  | pending
      (hreport : (Parser.new.feed content).report = .ok .more)
      (hawaits : Awaits content before next)
      (hongoing : connection.stream.ending = .ongoing) :
      AfterReceive content before connection next .pending

/-- A receive finds bytes or the end of the stream, or the client has sent all that
it will. -/
theorem Awaits.afterReceive
    {content before : Bytes} {connection : Connection}
    (h : Awaits content before connection) (bufferSize : Nat) :
    AfterReceive content before connection (connection.receive bufferSize).2
      (connection.receive bufferSize).1 := by
  have htotal := h.total
  have hholds := h.holds_receive bufferSize
  have hstep := connection.receiveStep_receive bufferSize
  generalize connection.receive bufferSize = received at *
  obtain ⟨receipt, next⟩ := received
  cases hstep with
  | bytes hend => exact .bytes hholds fun hempty => (hend hempty).2
  | failed hempty hnone hended =>
      rw [hnone, List.append_nil] at htotal
      exact .failed (htotal ▸ h.more) hempty hended
  | pending hempty hnone hongoing =>
      rw [hnone, List.append_nil] at htotal
      refine .pending (htotal ▸ h.more) ⟨h.more, ?_⟩ hongoing
      rw [hholds.dry hempty, List.append_nil, htotal]

/-- What a look leads to. -/
inductive AfterLook
    (site : Site) (content before : Bytes) (exchange : Exchange) (connection : Connection) :
    Look → Prop
  | closed {events : List Event}
      (hreport : (Parser.new.feed content).report = .ok .more)
      (hempty : connection.buffer = []) :
      AfterLook site content before exchange connection
        (.settled .abort exchange.parser connection events)
  | starved
      (hbuffer : connection.buffer ≠ [])
      (hawaits : Awaits content (before ++ connection.buffer) connection) :
      AfterLook site content before exchange connection
        (.starved (Parser.new.feed (before ++ connection.buffer)))
  | malformed {fault : RequestFault} {parser : Parser} {events : List Event}
      (hreport : (Parser.new.feed content).report = .error fault) :
      AfterLook site content before exchange connection
        (.settled .respond parser
          (connection.setBuffer (Response.render site.host (.bare .badRequest))) events)
  | complete {parser : Parser} {events : List Event}
      (hreport : (Parser.new.feed content).report = .ok .complete) :
      AfterLook site content before exchange connection
        (.settled .respond parser
          (({ connection with request := some (Parser.new.feed content).request } :
              Connection).setBuffer
            (Response.render site.host (site.reply (Parser.new.feed content).request)))
          events)

/-- A look settles what all the bytes of the client say, or moves the bytes of the
buffer to the parser. -/
theorem Holds.afterLook
    {content before : Bytes} {exchange : Exchange} {connection : Connection}
    (h : Holds content before connection)
    (hparser : exchange.parser = Parser.new.feed before) (site : Site) :
    AfterLook site content before exchange connection (exchange.look site connection) := by
  have htotal := h.total
  unfold look
  split
  · next hempty =>
      have hbuffer := List.isEmpty_iff.mp hempty
      rw [hbuffer, h.dry hbuffer, List.append_nil, List.append_nil] at htotal
      exact .closed (htotal ▸ h.more) hbuffer
  · next hempty =>
      have hbuffer : connection.buffer ≠ [] := mt List.isEmpty_iff.mpr hempty
      rw [← List.append_assoc] at htotal
      simp only
      rw [hparser, Parser.feed_feed]
      -- A final report is the report on all that the client sends.
      have hall :
          (Parser.new.feed (before ++ connection.buffer)).report ≠ .ok .more →
            Parser.new.feed (before ++ connection.buffer) = Parser.new.feed content := by
        intro hreport
        rw [← htotal, Parser.feed_append_of_report_ne _ hreport]
      split
      · next hreport => exact .starved hbuffer ⟨hreport, htotal⟩
      · next fault hreport =>
          have hfed := hall (hreport.trans_ne (by simp))
          rw [hfed] at hreport ⊢
          exact .malformed hreport
      · next hreport =>
          have hfed := hall (hreport.trans_ne (by simp))
          rw [hfed] at hreport ⊢
          simp only [Parser.takeRequest]
          rw [site.replyTo_fst]
          exact .complete hreport

end Exchange
end HttpEngine
