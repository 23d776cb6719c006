import HttpEngine.Proofs.Bytes.Lines
import HttpEngine.Proofs.Response.Reading

/-!
# Responses delimit themselves

Responses are written one after the other with nothing between them. Still each of them
says where it ends: its payload begins after the first empty line, and the length of the
payload is announced before that line, or there is no payload and nothing is announced.
No payload can move these borders, whatever bytes it has, as the lines before the first
empty line are fixed before the payload is written.

So no response is the beginning of another one, and the bytes of a list of responses
determine the list.
-/

namespace HttpEngine
namespace Response

/-! ## What the first empty line separates -/

/-- The headers that the lines of a head, its first line left out, give. -/
def fieldsOf (head : Bytes) : List Header :=
  head.lines.tail.filterMap fun line =>
    match Parser.splitHeader line with
    | .ok (name, value) => some ⟨name, value⟩
    | .error _ => none

/-- The values that a head announces as the length of the payload. -/
def announcedIn (head : Bytes) : List Bytes :=
  ((fieldsOf head).filter Grammar.Announces).map Header.value

/-- The bytes end where they say. What stands before the first empty line announces the
length of what stands after it, in decimal digits; or it announces no length, and nothing
stands after it. -/
inductive Delimits (bytes : Bytes) : Reply → Prop
  | bare {status : Status} {head : Bytes}
      (hcut : bytes.CutAtGap head [])
      (hnone : announcedIn head = []) :
      Delimits bytes { status := status, payload := none }
  | payload {status : Status} {head digits payload : Bytes}
      (hcut : bytes.CutAtGap head payload)
      (hannounced : announcedIn head = [digits])
      (hdigits : ∀ b ∈ digits, Decimal.isDigit b = true)
      (hvalue : Decimal.value digits = payload.length) :
      Delimits bytes { status := status, payload := some payload }

/-- The lines of a response up to its empty line. -/
def headLines (address : SocketAddress) (reply : Reply) : List Bytes :=
  Bytes.ofText ("HTTP/1.1 " ++ reply.status.text) ::
    (headersOf address reply.payload).map fun header =>
      Grammar.headerLine header.name.bytes header.value

theorem headOf_eq_block (address : SocketAddress) (reply : Reply) :
    headOf address reply = Bytes.block (headLines address reply) := by
  rw [headOf, headLines, headersOf, lineOf_eq, statusLine]
  cases reply.payload with
  | none => simp [Bytes.block, hostHeader]
  | some payload =>
      rw [Option.map_some, Option.getD_some, payloadLines_eq]
      simp [Bytes.block, hostHeader, payloadHeaders]

theorem render_eq_block {host : Host} (hrendered : host.Rendered) (reply : Reply) :
    render host reply =
      Bytes.block (headLines host.address reply) ++ (Bytes.lineEnd ++ reply.payload.getD []) := by
  rw [render_eq hrendered, headOf_eq_block]

/-! ## The lines before it -/

theorem isLine_statusText (status : Status) :
    Bytes.IsLine (Bytes.ofText ("HTTP/1.1 " ++ status.text)) := by
  obtain ⟨-, hne, hlast⟩ := reason_wellFormed status
  refine ⟨?_, lineFeed_not_mem_statusText status, ?_⟩
  · simp [Status.text, hne]
  · intro b hb
    rw [Status.text, Bytes.ofText_append, Bytes.ofText_append, ← List.append_assoc,
      List.getLast?_append_of_ne_nil _ hne] at hb
    rw [hb] at hlast
    exact hlast

/-- A header that can be written on a line of its own and be read again. -/
structure Plain (header : Header) : Prop where
  name_ne : header.name.bytes ≠ []
  name_free : Bytes.colon ∉ header.name.bytes ∧ Bytes.lineFeed ∉ header.name.bytes
  value_ne : header.value ≠ []
  value_solid : header.value.Solid

theorem Plain.isLine {header : Header} (h : Plain header) :
    Bytes.IsLine (Grammar.headerLine header.name.bytes header.value) := by
  have hcolon : Bytes.lineFeed ≠ Bytes.colon := by decide
  have hspace : Bytes.lineFeed ≠ Bytes.space := by decide
  refine ⟨by simp [Grammar.headerLine], ?_, ?_⟩
  · simp [Grammar.headerLine, h.name_free.2, hcolon, hspace, h.value_solid.lineFeed_not_mem]
  · intro b hb
    rw [Grammar.headerLine, List.append_cons, List.append_cons,
      List.getLast?_append_of_ne_nil _ h.value_ne] at hb
    exact h.value_solid.endsClean b hb

theorem Plain.split {header : Header} (h : Plain header) :
    Parser.splitHeader (Grammar.headerLine header.name.bytes header.value) =
      .ok (header.name, header.value) :=
  (Grammar.headerLine_of_solid ⟨h.name_free.1, h.name_ne⟩ h.value_solid h.value_ne).split

theorem plain_of_mem_headersOf
    {address : SocketAddress} {payload : Option Bytes} {header : Header}
    (hmem : header ∈ headersOf address payload) :
    Plain header := by
  have hnames :
      ∀ name ∈ ["Host", "Content-Type", "Content-Length"],
        Bytes.ofText name ≠ [] ∧
          Bytes.colon ∉ Bytes.ofText name ∧ Bytes.lineFeed ∉ Bytes.ofText name := by
    decide
  rcases List.mem_cons.mp hmem with rfl | hmem
  · obtain ⟨hne, hfree⟩ := hnames "Host" (by simp)
    exact ⟨hne, hfree, address.ofText_text_ne_nil, address.solid_text⟩
  · cases payload with
    | none => contradiction
    | some payload =>
        rcases List.mem_pair.mp hmem with rfl | rfl
        · obtain ⟨hne, hfree⟩ := hnames "Content-Type" (by simp)
          exact ⟨hne, hfree, by decide, by decide⟩
        · obtain ⟨hne, hfree⟩ := hnames "Content-Length" (by simp)
          exact ⟨hne, hfree, Decimal.ofNat_ne_nil _, Decimal.solid_ofNat _⟩

theorem isLine_of_mem_headLines
    {address : SocketAddress} {reply : Reply} {line : Bytes}
    (hmem : line ∈ headLines address reply) :
    Bytes.IsLine line := by
  rcases List.mem_cons.mp hmem with rfl | hmem
  · exact isLine_statusText reply.status
  · obtain ⟨header, hheader, rfl⟩ := List.mem_map.mp hmem
    exact (plain_of_mem_headersOf hheader).isLine

/-- The headers that were written are found in the lines of a head. -/
theorem fieldsOf_intercalate (address : SocketAddress) (reply : Reply) :
    fieldsOf (Bytes.lineEnd.intercalate (headLines address reply)) =
      headersOf address reply.payload := by
  have hlines :=
    Bytes.lines_intercalate (fun _ hmem => isLine_of_mem_headLines hmem)
      (List.cons_ne_nil _ _ : headLines address reply ≠ [])
  rw [fieldsOf, hlines, headLines, List.tail_cons, List.filterMap_map]
  refine (List.filterMap_congr ?_).trans List.filterMap_some
  intro header hheader
  rw [Function.comp_apply, (plain_of_mem_headersOf hheader).split]

/-- A response delimits itself, whatever its payload is. -/
theorem delimits_render {host : Host} (hrendered : host.Rendered) (reply : Reply) :
    Delimits (render host reply) reply := by
  have hcut :=
    Bytes.cutAtGap_block (fun _ hmem => isLine_of_mem_headLines hmem)
      (List.cons_ne_nil _ _ : headLines host.address reply ≠ []) (reply.payload.getD [])
  rw [← render_eq_block hrendered] at hcut
  have hfields := fieldsOf_intercalate host.address reply
  obtain ⟨status, payload⟩ := reply
  cases payload with
  | none =>
      refine .bare hcut ?_
      rw [announcedIn, hfields]
      rfl
  | some payload =>
      have hdigits : ∀ b ∈ Decimal.ofNat payload.length, Decimal.isDigit b = true :=
        fun _ hb => Decimal.isDigit_of_mem_ofNat hb
      refine .payload hcut ?_ hdigits (Decimal.value_ofNat _)
      rw [announcedIn, hfields]
      rfl

/-! ## Lists of responses -/

theorem status_eq_of_code {first second : Status} (h : first.code = second.code) :
    first = second := by
  have hfound : ∀ status : Status, Status.ofCode? status.code = some status := by
    intro status
    cases status <;> rfl
  have hsecond := hfound second
  rw [← h, hfound first] at hsecond
  exact Option.some.inj hsecond

/-- The status line names the status. -/
theorem status_eq_of_statusText
    {first second : Status}
    (h : Bytes.ofText ("HTTP/1.1 " ++ first.text) = Bytes.ofText ("HTTP/1.1 " ++ second.text)) :
    first = second := by
  have hsplit := (requestLine_status first).split
  rw [h, (requestLine_status second).split] at hsplit
  simp only [Except.ok.injEq, Prod.mk.injEq, true_and] at hsplit
  have hcode := congrArg Decimal.value hsplit.1
  rw [Decimal.value_ofNat, Decimal.value_ofNat] at hcode
  exact status_eq_of_code hcode.symm

/-- No response is the beginning of another one: where two of them begin, with whatever
follows, they are the same. -/
theorem render_append_inj
    {host : Host} (hrendered : host.Rendered) {first second : Reply} {rest back : Bytes}
    (h : render host first ++ rest = render host second ++ back) :
    first = second ∧ rest = back := by
  rw [render_eq_block hrendered, render_eq_block hrendered, List.append_assoc,
    List.append_assoc, List.append_assoc, List.append_assoc] at h
  obtain ⟨hlines, hrest⟩ :=
    Bytes.block_append_inj (fun _ hmem => isLine_of_mem_headLines hmem)
      (fun _ hmem => isLine_of_mem_headLines hmem) h
  obtain ⟨hstatus, hheaders⟩ := List.cons.inj hlines
  obtain ⟨status, payload⟩ := first
  obtain ⟨_, other⟩ := second
  obtain rfl := status_eq_of_statusText hstatus
  cases payload with
  | none =>
      cases other with
      | none => exact ⟨rfl, hrest⟩
      | some other => simp [headersOf, payloadHeaders] at hheaders
  | some payload =>
      cases other with
      | none => simp [headersOf, payloadHeaders] at hheaders
      | some other =>
          have hdigits : Decimal.ofNat payload.length = Decimal.ofNat other.length := by
            simpa [headersOf, payloadHeaders, Grammar.headerLine] using hheaders
          have hlength := congrArg Decimal.value hdigits
          rw [Decimal.value_ofNat, Decimal.value_ofNat] at hlength
          obtain ⟨rfl, hback⟩ := List.append_inj hrest hlength
          exact ⟨rfl, hback⟩

theorem render_ne_nil (host : Host) (reply : Reply) : render host reply ≠ [] := by
  simp [render, statusLine, Bytes.lineEnd]

/-- The bytes of a list of responses determine the list. The induction is on the one
list; the first responses are the same, and so is what follows them. -/
theorem flatten_render_inj
    {host : Host} (hrendered : host.Rendered) {replies others : List Reply}
    (h : (replies.map (render host)).flatten = (others.map (render host)).flatten) :
    replies = others := by
  induction replies generalizing others with
  | nil =>
      cases others with
      | nil => rfl
      | cons other others => simp [render_ne_nil] at h
  | cons reply replies ih =>
      cases others with
      | nil => simp [render_ne_nil] at h
      | cons other others =>
          rw [List.map_cons, List.map_cons, List.flatten_cons, List.flatten_cons] at h
          obtain ⟨rfl, hrest⟩ := render_append_inj hrendered h
          rw [ih hrest]

/-- Appends responses to a buffer, one after the other. -/
def appendAll (host : Host) (replies : List Reply) (buffer : Bytes) : Bytes :=
  replies.foldl (fun buffer reply => append host reply buffer) buffer

theorem appendAll_eq (host : Host) (replies : List Reply) (buffer : Bytes) :
    appendAll host replies buffer = buffer ++ (replies.map (render host)).flatten := by
  induction replies generalizing buffer with
  | nil => simp [appendAll]
  | cons reply replies ih =>
      have hrest := ih (append host reply buffer)
      rw [appendAll] at hrest ⊢
      rw [List.foldl_cons, hrest, append, List.append_assoc, List.map_cons, List.flatten_cons]

/-- Responses that are written one after the other leave the buffer before them as it is
and can be told apart: each of them delimits itself, and their bytes are the bytes of no
other list of statuses and payloads. -/
theorem self_delimiting
    {host : Host} (hrendered : host.Rendered) (replies : List Reply) (buffer : Bytes) :
    appendAll host replies buffer = buffer ++ (replies.map (render host)).flatten ∧
      (∀ reply ∈ replies, Delimits (render host reply) reply) ∧
      ∀ others earlier,
        appendAll host others earlier = earlier ++ (replies.map (render host)).flatten →
          others = replies := by
  refine ⟨appendAll_eq host replies buffer, ?_, ?_⟩
  · exact fun reply _ => delimits_render hrendered reply
  · intro others earlier h
    rw [appendAll_eq] at h
    exact flatten_render_inj hrendered (List.append_cancel_left h)

/-- A payload that looks like an empty line and another response moves no border. -/
theorem self_delimiting_of_forged_response :
    let host := Host.new (.v6 Ipv6.loopback 8080 0)
    let forged := Bytes.ofText "\r\n\r\nHTTP/1.1 200 OK\r\nContent-Length: 0\r\n\r\n"
    let replies : List Reply := [{ status := .ok, payload := some forged }, .bare .noContent]
    host.Rendered ∧
      (∀ reply ∈ replies, Delimits (render host reply) reply) ∧
      ∀ others earlier,
        appendAll host others earlier = earlier ++ (replies.map (render host)).flatten →
          others = replies := by
  intro host forged replies
  have hrendered : host.Rendered := rfl
  exact ⟨hrendered, (self_delimiting hrendered replies []).2⟩

end Response
end HttpEngine
