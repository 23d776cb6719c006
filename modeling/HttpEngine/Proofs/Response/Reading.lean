import HttpEngine.Proofs.Address.Text
import HttpEngine.Proofs.Request.Writing
import HttpEngine.Proofs.Response.Naming

/-!
# Responses are read back by the parser of requests

To the parser, a response looks like a request: the protocol stands where the method of
a request stands, the number of the status where its route stands, and the reason phrase
where its version stands. The parser finds these parts, the headers and the payload
again, whatever the address, the status and the payload are, and it is done with the last
byte and not before. Only a payload that begins with a line break is not read back, as
the parser skips line breaks in front of a body.
-/

namespace HttpEngine
namespace Response

/-- The protocol, which comes first in a response. -/
def protocol : Bytes :=
  Bytes.ofText "HTTP/1.1"

/-- The header that names the address of the server. -/
def hostHeader (address : SocketAddress) : Header :=
  { name := ⟨Bytes.ofText "Host"⟩, value := Bytes.ofText address.text }

/-- The headers that announce a payload. -/
def payloadHeaders (payload : Bytes) : List Header :=
  [{ name := ⟨Bytes.ofText "Content-Type"⟩, value := Bytes.ofText "text/plain" },
   { name := ⟨Bytes.ofText "Content-Length"⟩, value := Decimal.ofNat payload.length }]

/-- The headers of a response. -/
def headersOf (address : SocketAddress) (payload : Option Bytes) : List Header :=
  hostHeader address :: (payload.map payloadHeaders).getD []

/-- What a response looks like when it is read as a request. -/
def asRequest (address : SocketAddress) (reply : Reply) : Request :=
  { method := protocol
    route := Decimal.ofNat reply.status.code
    version := Bytes.ofText reply.status.reason
    headers := .ofHeaders (headersOf address reply.payload)
    body := reply.payload.filter fun bytes => !bytes.isEmpty }

/-- A response up to its empty line. -/
def headOf (address : SocketAddress) (reply : Reply) : Bytes :=
  statusLine reply.status ++ Host.lineOf address ++ (reply.payload.map payloadLines).getD []

theorem render_eq {host : Host} (hrendered : host.Rendered) (reply : Reply) :
    render host reply =
      headOf host.address reply ++ (Bytes.lineEnd ++ reply.payload.getD []) := by
  have hline : host.line = Host.lineOf host.address := hrendered
  rw [render, headOf, hline]
  cases reply.payload <;> simp [tail]

/-- A reason phrase has no line feed, and it neither is empty nor ends in a blank. This
is a fact about the table of status codes. -/
theorem reason_wellFormed (status : Status) :
    Bytes.lineFeed ∉ Bytes.ofText status.reason ∧
      Bytes.ofText status.reason ≠ [] ∧
      (Bytes.ofText status.reason).getLast?.any Bytes.isBlank = false := by
  cases status <;> decide

theorem requestLine_status (status : Status) :
    Grammar.RequestLine (Bytes.ofText ("HTTP/1.1 " ++ status.text)) protocol
      (Decimal.ofNat status.code) (Bytes.ofText status.reason) := by
  obtain ⟨-, hne, hlast⟩ := reason_wellFormed status
  refine
    { parts := ⟨[], ?_, fun _ hb => by contradiction⟩
      method_free := by decide
      route_free := (Decimal.solid_ofNat _).space_not_mem
      method_ne := by decide
      route_ne := Decimal.ofNat_ne_nil _
      version_ne := hne
      version_end := ?_ }
  · have hprotocol : Bytes.ofText "HTTP/1.1 " = protocol ++ [Bytes.space] := by decide
    have hspace : Bytes.ofText " " = [Bytes.space] := by decide
    rw [Status.text, Bytes.ofText_append, Bytes.ofText_append, Bytes.ofText_append,
      ← Decimal.ofNat_eq_ofText, hprotocol, hspace]
    simp
  · intro b hb
    rw [hb] at hlast
    exact hlast

theorem lineFeed_not_mem_statusText (status : Status) :
    Bytes.lineFeed ∉ Bytes.ofText ("HTTP/1.1 " ++ status.text) := by
  have hprotocol : Bytes.lineFeed ∉ Bytes.ofText "HTTP/1.1 " := by decide
  have hspace : Bytes.lineFeed ∉ Bytes.ofText " " := by decide
  have hcode := (Bytes.solid_toString status.code).lineFeed_not_mem
  have hreason := (reason_wellFormed status).1
  simp only [Status.text, Bytes.ofText_append, List.mem_append, not_or]
  exact ⟨hprotocol, ⟨hcode, hspace⟩, hreason⟩

theorem fullHead_statusLine (status : Status) :
    Grammar.FullHead (statusLine status) protocol (Decimal.ofNat status.code)
      (Bytes.ofText status.reason) [] 0 := by
  intro rest
  have hfree := lineFeed_not_mem_statusText status
  rw [statusLine, List.append_assoc]
  exact .requestLine (Grammar.line_append_lineEnd hfree rest) (requestLine_status status)

theorem lineOf_eq (address : SocketAddress) :
    Host.lineOf address =
      Grammar.headerLine (Bytes.ofText "Host") (Bytes.ofText address.text) ++ Bytes.lineEnd := by
  have hname : Bytes.ofText "Host: " = Grammar.headerLine (Bytes.ofText "Host") [] := by decide
  rw [Host.lineOf, Bytes.ofText_append, hname]
  simp [Grammar.headerLine]

theorem payloadLines_eq (payload : Bytes) :
    payloadLines payload =
      Grammar.headerLine (Bytes.ofText "Content-Type") (Bytes.ofText "text/plain") ++
          Bytes.lineEnd ++
        (Grammar.headerLine (Bytes.ofText "Content-Length") (Decimal.ofNat payload.length) ++
          Bytes.lineEnd) := by
  have htype :
      Bytes.ofText "Content-Type: text/plain" =
        Grammar.headerLine (Bytes.ofText "Content-Type") (Bytes.ofText "text/plain") := by
    decide
  have hlength :
      Bytes.ofText "Content-Length: " =
        Grammar.headerLine (Bytes.ofText "Content-Length") [] := by
    decide
  rw [payloadLines, htype, hlength]
  simp [Grammar.headerLine]

theorem fullHead_lineOf (status : Status) (address : SocketAddress) :
    Grammar.FullHead (statusLine status ++ Host.lineOf address) protocol
      (Decimal.ofNat status.code) (Bytes.ofText status.reason) [hostHeader address] 0 := by
  rw [lineOf_eq]
  exact
    (fullHead_statusLine status).header (by decide) (by decide) address.solid_text
      address.ofText_text_ne_nil (fun _ hnone => by contradiction) rfl

theorem fullHead_payloadLines
    (status : Status) (address : SocketAddress) {payload : Bytes}
    (hlength : payload.length < 2 ^ 64) :
    Grammar.FullHead (statusLine status ++ Host.lineOf address ++ payloadLines payload) protocol
      (Decimal.ofNat status.code) (Bytes.ofText status.reason)
      (hostHeader address :: payloadHeaders payload) payload.length := by
  have htype :
      Fresh [hostHeader address] ⟨Bytes.ofText "Content-Type"⟩ := by
    intro header hheader
    rw [List.mem_singleton.mp hheader]
    rfl
  have hannounced :
      Fresh
        [hostHeader address, ⟨⟨Bytes.ofText "Content-Type"⟩, Bytes.ofText "text/plain"⟩]
        ⟨Bytes.ofText "Content-Length"⟩ := by
    intro header hheader
    rcases List.mem_pair.mp hheader with rfl | rfl <;> rfl
  rw [payloadLines_eq, ← List.append_assoc]
  have hsecond :=
    (fullHead_lineOf status address).header (by decide) (by decide)
      (by decide : (Bytes.ofText "text/plain").Solid) (by decide) htype rfl
  exact hsecond.contentLength (by decide) (by decide) hannounced rfl hlength

/-- What the engine writes before the empty line is a head, and announces the payload. -/
theorem fullHead_headOf
    (address : SocketAddress) (reply : Reply)
    (hlength : ∀ payload ∈ reply.payload, payload.length < 2 ^ 64) :
    Grammar.FullHead (headOf address reply) protocol (Decimal.ofNat reply.status.code)
      (Bytes.ofText reply.status.reason) (headersOf address reply.payload)
      (reply.payload.getD []).length := by
  rw [headOf, headersOf]
  cases hpayload : reply.payload with
  | none =>
      rw [Option.map_none, Option.map_none, Option.getD_none, List.append_nil]
      exact fullHead_lineOf reply.status address
  | some payload => exact fullHead_payloadLines reply.status address (hlength payload hpayload)

/-- The parser reads back what is written, whatever the address, the status and the
payload are: fed in any chunks, a response is complete with its last byte and not before,
and has the protocol, the number, the reason phrase, the headers and the payload where a
request has its parts. The length of a payload is that of something in memory, and the
payload does not begin with a line break. -/
theorem read_back_of_chunks
    {host : Host} {reply : Reply}
    (hrendered : host.Rendered)
    (hlength : ∀ payload ∈ reply.payload, payload.length < 2 ^ 64)
    (hstart : ∀ payload ∈ reply.payload, Grammar.StartsBody payload)
    (buffer : Bytes) :
    ∃ bytes,
      append host reply buffer = buffer ++ bytes ∧
        ∀ chunks : List Bytes,
          let parser := chunks.foldl Parser.feed Parser.new
          (chunks.flatten = bytes →
              parser.report = .ok .complete ∧
                parser.request = asRequest host.address reply) ∧
            (chunks.flatten <+: bytes → chunks.flatten ≠ bytes →
              parser.report = .ok .more) := by
  refine ⟨render host reply, rfl, fun chunks => ?_⟩
  have hhead := fullHead_headOf host.address reply hlength
  have hbody : Grammar.StartsBody (reply.payload.getD []) := by
    cases hpayload : reply.payload with
    | none => exact fun _ hb => by contradiction
    | some payload => exact hstart payload hpayload
  rw [render_eq hrendered, Parser.foldl_feed]
  refine ⟨fun hall => ?_, fun hfront hne => ?_⟩
  · obtain ⟨hreport, hrequest⟩ := (Grammar.reads_complete hhead hbody).advance
    rw [hall, Parser.feed_eq_advance]
    refine ⟨hreport, hrequest.trans ?_⟩
    rw [asRequest]
    cases reply.payload <;> rfl
  · -- A proper prefix lacks the last byte, and what is reported is never taken back.
    obtain ⟨front, last, hlast, hmore⟩ := Grammar.exists_last hhead hbody
    rw [hlast] at hfront hne
    rcases List.prefix_concat_iff.mp hfront with hall | hproper
    · exact absurd hall hne
    · exact Parser.report_of_prefix hmore hproper

/-- A payload that looks like the end of a head, at an address full of colons. -/
theorem read_back_of_teapot :
    let host := Host.new (.v6 Ipv6.loopback 8080 0)
    let payload := Bytes.ofText "Host: tea\r\n\r\n"
    let reply : Reply := { status := .imATeapot, payload := some payload }
    ∀ chunks : List Bytes,
      chunks.flatten = render host reply →
        (chunks.foldl Parser.feed Parser.new).report = .ok .complete ∧
          (chunks.foldl Parser.feed Parser.new).request = asRequest host.address reply := by
  intro host payload reply chunks hall
  have hlength : ∀ bytes ∈ reply.payload, bytes.length < 2 ^ 64 := by
    intro bytes hbytes
    obtain rfl := Option.some.inj hbytes
    decide
  have hstart : ∀ bytes ∈ reply.payload, Grammar.StartsBody bytes := by
    intro bytes hbytes b hb
    obtain rfl := Option.some.inj hbytes
    obtain rfl := Option.some.inj hb
    rfl
  have hrendered : host.Rendered := rfl
  obtain ⟨bytes, happend, hchunks⟩ := read_back_of_chunks hrendered hlength hstart []
  have hbytes : render host reply = bytes := happend
  exact (hchunks chunks).1 (hall.trans hbytes)

end Response
end HttpEngine
