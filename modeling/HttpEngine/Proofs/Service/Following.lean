import HttpEngine.Proofs.Exchange.Reading
import HttpEngine.Proofs.Service.Books

/-!
# What a task is about

At every step of its task, a connection is explained by the client alone: which of
the client's bytes have been read, which are in the buffer and which wait, and, in
the end, what the client has been sent. None of it depends on the other tasks, or on
what the slot and the exchange were used for before.

A task whose client does not leave it waiting comes closer to its end with every
step.
-/

namespace HttpEngine
namespace Site

variable {site : Site}
variable {content : Bytes}

theorem answer?_of_more (hreport : (Parser.new.feed content).report = .ok .more) :
    site.answer? content = none := by
  unfold answer?
  simp only
  rw [hreport]

theorem answer?_of_error
    {fault : RequestFault} (hreport : (Parser.new.feed content).report = .error fault) :
    site.answer? content = some (Response.render site.host (.bare .badRequest)) := by
  unfold answer?
  simp only
  rw [hreport]

theorem answer?_of_complete (hreport : (Parser.new.feed content).report = .ok .complete) :
    site.answer? content =
      some (Response.render site.host (site.reply (Parser.new.feed content).request)) := by
  unfold answer?
  simp only
  rw [hreport]
  rfl

/-- What a client has been sent in the end. -/
def sentTo (site : Site) (client : Stream) : Bytes :=
  if client.isBroken then client.sent
  else client.sent ++ (site.answer? client.content).getD []

end Site

namespace Stream

/-- The client does not leave the server waiting for the rest of a request. -/
def CanEnd (client : Stream) : Prop :=
  client.ending = .ongoing → (Parser.new.feed client.content).report ≠ .ok .more

/-- The client is done with. -/
structure Concluded (site : Site) (client stream : Stream) : Prop where
  sent_eq : stream.sent = site.sentTo client
  canEnd : client.CanEnd

/-- A client that has ended its side without a whole request is done with. -/
theorem concluded_of_more
    {client stream : Stream} (site : Site) (halike : client.Alike stream)
    (hreport : (Parser.new.feed client.content).report = .ok .more)
    (hended : client.ending ≠ .ongoing) :
    client.Concluded site stream := by
  refine ⟨?_, fun hongoing => absurd hongoing hended⟩
  rw [halike.sent_eq, Site.sentTo, Site.answer?_of_more hreport, Option.getD_none,
    List.append_nil, ite_self]

end Stream

namespace Connection

variable {site : Site}
variable {client : Stream}
variable {before : Bytes}
variable {connection : Connection}

/-- The next bytes of the client are awaited. -/
structure Awaiting (client : Stream) (before : Bytes) (connection : Connection) : Prop where
  alike : client.Alike connection.stream
  awaits : Exchange.Awaits client.content before connection

/-- The next bytes of the client are in the buffer. -/
structure Holding (client : Stream) (before : Bytes) (connection : Connection) : Prop where
  alike : client.Alike connection.stream
  holds : Exchange.Holds client.content before connection
  ended : connection.buffer = [] → client.ending ≠ .ongoing

/-- The answer to the client is in the buffer. -/
structure Answered (site : Site) (client : Stream) (connection : Connection) : Prop where
  alike : client.Alike connection.stream
  answer_eq : site.answer? client.content = some connection.buffer

/-- A measure of the bytes that wait. -/
def waiting (connection : Connection) : Nat :=
  2 * connection.stream.content.length

/-- A measure of the bytes that wait and of those in the buffer. -/
def unread (connection : Connection) : Nat :=
  connection.waiting + (if connection.buffer.isEmpty then 0 else 2)

/-- A receive makes less wait, at least by what it puts into the buffer. -/
theorem unread_receive_le (connection : Connection) (bufferSize : Nat) :
    (connection.receive bufferSize).2.unread ≤ connection.waiting := by
  have hcontent := connection.content_receive bufferSize
  rw [unread, waiting, waiting, hcontent, List.length_append]
  cases (connection.receive bufferSize).2.buffer with
  | nil => simp
  | cons b bs =>
      simp only [List.isEmpty_cons, Bool.false_eq_true, if_false, List.length_cons]
      omega

/-- A receive puts bytes into the buffer, or the client is done with, or it leaves
the server waiting. -/
theorem Awaiting.receive
    (h : Awaiting client before connection) (site : Site) (bufferSize : Nat) :
    match (connection.receive bufferSize).1 with
    | .bytes _ => Holding client before (connection.receive bufferSize).2
    | .failed _ => client.Concluded site (connection.receive bufferSize).2.stream
    | .pending => Awaiting client before (connection.receive bufferSize).2 ∧ ¬ client.CanEnd := by
  have hafter := h.awaits.afterReceive bufferSize
  have halike := h.alike.trans (connection.readsOn_receive bufferSize).stream_alike
  generalize connection.receive bufferSize = received at *
  obtain ⟨receipt, next⟩ := received
  cases hafter with
  | bytes hholds hended =>
      exact ⟨halike, hholds, fun hempty => mt h.alike.ongoing_iff.mpr (hended hempty)⟩
  | failed hreport _ hended =>
      exact Stream.concluded_of_more site halike hreport (mt h.alike.ongoing_iff.mpr hended)
  | pending hreport hawaits hongoing =>
      refine ⟨⟨halike, hawaits⟩, ?_⟩
      intro hcan
      exact hcan (h.alike.ongoing_iff.mp hongoing) hreport

/-- A client whose answer has been sent is done with. -/
theorem Answered.send (h : Answered site client connection) :
    client.Concluded site connection.send.2.stream := by
  refine ⟨?_, ?_⟩
  · rw [connection.sent_send, Site.sentTo, h.alike.broken_eq, h.alike.sent_eq, h.answer_eq,
      Option.getD_some]
  · intro _ hreport
    have hanswer := h.answer_eq
    rw [Site.answer?_of_more hreport] at hanswer
    contradiction

end Connection

namespace Serving

/-- A task is about a client. -/
def Follows (site : Site) (client : Stream) : Serving → Prop
  | .arrived stream => stream = client
  | .opening connection => connection.Awaiting client []
  | .opened connection => connection.Holding client []
  | .reading connection exchange =>
      ∃ before, exchange.parser = Parser.new.feed before ∧ connection.Holding client before
  | .starved connection exchange =>
      ∃ before, exchange.parser = Parser.new.feed before ∧ connection.Awaiting client before
  | .answered connection _ => connection.Answered site client
  | .closing connection _ => client.Concluded site connection.stream
  | .leaving connection _ => client.Concluded site connection.stream
  | .parting _ stream => client.Concluded site stream
  | .ended stream => client.Concluded site stream
  | .aborted => False

/-- How many steps a task may still go on. -/
def remaining : Serving → Nat
  | .arrived stream => 2 * stream.content.length + 8
  | .opening connection => connection.waiting + 7
  | .opened connection => connection.unread + 6
  | .reading connection _ => connection.unread + 5
  | .starved connection _ => connection.waiting + 6
  | .answered _ _ => 4
  | .closing _ _ => 3
  | .leaving _ _ => 2
  | .parting _ _ => 1
  | .ended _ => 0
  | .aborted => 0

end Serving

namespace Service

/-- A step of a task is about the client of the task. If the client does not leave
the server waiting, fewer steps remain afterwards. -/
theorem follows_next
    {service : Service} {site : Site} {client : Stream} {task : Serving}
    {slots exchanges entries : List Nat}
    (h : task.Follows site client)
    (hbooks : service.BalancedWith task slots exchanges entries)
    (hentered : task.Entered) :
    (service.next site task).1.Follows site client ∧
      (client.CanEnd → (service.next site task).1.remaining ≤ task.remaining - 1) := by
  cases task with
  | arrived stream =>
      obtain rfl : stream = client := h
      simp only [Service.next, Manager.accept_eq hbooks.enters.nextId_not_mem stream]
      exact ⟨⟨Stream.Alike.refl stream, Exchange.awaits_nil rfl⟩, fun _ => Nat.le_refl _⟩
  | opening connection =>
      have hreceived := Connection.Awaiting.receive h site service.manager.bufferSize
      have hless := connection.unread_receive_le service.manager.bufferSize
      simp only [Service.next]
      generalize connection.receive service.manager.bufferSize = received at *
      obtain ⟨receipt, next⟩ := received
      cases receipt with
      | bytes count => exact ⟨hreceived, fun _ => Nat.add_le_add_right hless 6⟩
      | failed fault =>
          refine ⟨hreceived, fun _ => ?_⟩
          simp only [Serving.remaining]
          omega
      | pending => exact ⟨hreceived.1, fun hcan => absurd hcan hreceived.2⟩
  | opened connection =>
      refine ⟨⟨[], ?_, h⟩, fun _ => Nat.le_refl _⟩
      rw [Exchange.restart, Parser.reset_eq_new, Parser.feed_nil_new]
  | reading connection exchange =>
      obtain ⟨before, hparser, hholding⟩ := h
      have hlooked := hholding.holds.afterLook hparser site
      simp only [Service.next]
      generalize exchange.look site connection = look at hlooked ⊢
      cases hlooked with
      | closed hreport hempty =>
          have hended := hholding.ended hempty
          refine ⟨Stream.concluded_of_more site hholding.alike hreport hended, fun _ => ?_⟩
          simp only [Serving.remaining]
          omega
      | starved hbuffer hawaits =>
          have hunread : connection.unread = connection.waiting + 2 := by
            rw [Connection.unread, if_neg (by simpa using hbuffer)]
          refine ⟨⟨_, rfl, hholding.alike, hawaits⟩, fun _ => ?_⟩
          simp only [Serving.remaining]
          omega
      | malformed hreport =>
          refine ⟨⟨hholding.alike, Site.answer?_of_error hreport⟩, fun _ => ?_⟩
          simp only [Serving.remaining]
          omega
      | complete hreport =>
          refine ⟨⟨hholding.alike, Site.answer?_of_complete hreport⟩, fun _ => ?_⟩
          simp only [Serving.remaining]
          omega
  | starved connection exchange =>
      obtain ⟨before, hparser, hawaiting⟩ := h
      have hreceived := hawaiting.receive site service.manager.bufferSize
      have hless := connection.unread_receive_le service.manager.bufferSize
      simp only [Service.next]
      generalize connection.receive service.manager.bufferSize = received at *
      obtain ⟨receipt, next⟩ := received
      cases receipt with
      | bytes count =>
          exact ⟨⟨before, hparser, hreceived⟩, fun _ => Nat.add_le_add_right hless 5⟩
      | failed fault =>
          refine ⟨hreceived, fun _ => ?_⟩
          simp only [Serving.remaining]
          omega
      | pending =>
          exact ⟨⟨before, hparser, hreceived.1⟩, fun hcan => absurd hcan hreceived.2⟩
  | answered connection exchange =>
      exact ⟨Connection.Answered.send h, fun _ => Nat.le_refl _⟩
  | closing connection exchange =>
      have henters := hbooks.enters_closing hentered
      simp only [Service.next, henters.unregister_eq]
      exact ⟨h, fun _ => Nat.le_refl _⟩
  | leaving connection exchange => exact ⟨h, fun _ => Nat.le_refl _⟩
  | parting exchange stream => exact ⟨h, fun _ => Nat.le_refl _⟩
  | ended stream => exact ⟨h, fun _ => Nat.le_refl _⟩
  | aborted => exact ⟨h, fun _ => Nat.le_refl _⟩

end Service
end HttpEngine
