import HttpEngine.Proofs.Decimal.Writing
import HttpEngine.Proofs.Request.Language

/-!
# Writing what the grammar reads

Lines that are written one after the other, each with a line end, are the lines that the
grammar finds. So a head can be written line by line: `FullHead` says that some bytes are
a head whatever follows them, and each header line that is appended keeps this. A head,
the empty line and a body of the announced length are a complete request, and without
their last byte they are not.
-/

namespace HttpEngine
namespace Grammar

theorem line_append_lineEnd {line : Bytes} (hfree : Bytes.lineFeed ∉ line) (rest : Bytes) :
    Line (line ++ (Bytes.lineEnd ++ rest)) line rest := by
  refine ⟨line ++ [Bytes.carriageReturn], by simp [Bytes.lineEnd], ?_, .returned line⟩
  rw [List.mem_append, not_or]
  exact ⟨hfree, by decide⟩

/-- Some bytes are a head, whatever comes after them. -/
def FullHead
    (head method route version : Bytes) (headers : List Header) (length : Nat) : Prop :=
  ∀ rest, Head (head ++ rest) method route version headers length rest

/-- A header line as the engine writes it. -/
def headerLine (name value : Bytes) : Bytes :=
  name ++ Bytes.colon :: Bytes.space :: value

section Ending

variable {head method route version : Bytes}
variable {headers : List Header}
variable {length : Nat}
variable {name value : Bytes}
variable {body : Bytes}

theorem headerLine_of_solid
    (hname : Bytes.colon ∉ name ∧ name ≠ []) (hsolid : value.Solid) (hvalue : value ≠ []) :
    HeaderLine (headerLine name value) ⟨⟨name⟩, value⟩ where
  parts :=
    ⟨[Bytes.space], [], by simp [headerLine], by simp [Bytes.Blank, Bytes.isBlank],
      fun _ hb => by contradiction⟩
  name_free := hname.1
  name_ne := hname.2
  value_ne := hvalue
  value_start := hsolid.startsClean
  value_end := hsolid.endsClean

theorem line_headerLine (hname : Bytes.lineFeed ∉ name) (hsolid : value.Solid) (rest : Bytes) :
    Line (headerLine name value ++ (Bytes.lineEnd ++ rest)) (headerLine name value) rest := by
  have hcolon : Bytes.lineFeed ≠ Bytes.colon := by decide
  have hspace : Bytes.lineFeed ≠ Bytes.space := by decide
  refine line_append_lineEnd ?_ rest
  simp [headerLine, hname, hcolon, hspace, hsolid.lineFeed_not_mem]

/-- One more header of another name. -/
theorem FullHead.header
    (h : FullHead head method route version headers length)
    (hname : Bytes.colon ∉ name ∧ name ≠ []) (hline : Bytes.lineFeed ∉ name)
    (hsolid : value.Solid) (hvalue : value ≠ [])
    (hfresh : Fresh headers ⟨name⟩) (hother : Announces ⟨⟨name⟩, value⟩ = false) :
    FullHead (head ++ (headerLine name value ++ Bytes.lineEnd)) method route version
      (headers ++ [⟨⟨name⟩, value⟩]) length := by
  intro rest
  rw [List.append_assoc, List.append_assoc]
  exact
    .header (h _) (line_headerLine hline hsolid rest) (headerLine_of_solid hname hsolid hvalue)
      hfresh hother

/-- The header that announces the body. -/
theorem FullHead.contentLength
    {announced : Nat}
    (h : FullHead head method route version headers length)
    (hname : Bytes.colon ∉ name ∧ name ≠ []) (hline : Bytes.lineFeed ∉ name)
    (hfresh : Fresh headers ⟨name⟩)
    (hannounces : Announces ⟨⟨name⟩, Decimal.ofNat announced⟩ = true)
    (hless : announced < 2 ^ 64) :
    FullHead (head ++ (headerLine name (Decimal.ofNat announced) ++ Bytes.lineEnd)) method route
      version (headers ++ [⟨⟨name⟩, Decimal.ofNat announced⟩]) announced := by
  intro rest
  have hsolid := Decimal.solid_ofNat announced
  rw [List.append_assoc, List.append_assoc]
  exact
    .contentLength (h _) (line_headerLine hline hsolid rest)
      (headerLine_of_solid hname hsolid (Decimal.ofNat_ne_nil announced)) hfresh hannounces
      (Decimal.isWord_ofNat hless)

/-- A head, the empty line and the announced body are a complete request. -/
theorem reads_complete
    (hhead : FullHead head method route version headers body.length)
    (hstart : StartsBody body) :
    Reads (head ++ (Bytes.lineEnd ++ body)) (.ok .complete)
      ⟨method, route, version, .ofHeaders headers,
        (some body).filter fun bytes => !bytes.isEmpty⟩ := by
  cases body with
  | nil => exact .withoutBody (hhead _) (line_append_lineEnd List.not_mem_nil [])
  | cons b body =>
      have hline : Line (Bytes.lineEnd ++ (b :: body)) [] ([] ++ ((b :: body) ++ [])) := by
        rw [List.append_nil]
        exact line_append_lineEnd List.not_mem_nil (b :: body)
      exact .withBody (hhead _) hline (fun _ hb => by contradiction) hstart (by simp) rfl

/-- The request is not complete as long as its last byte is missing. -/
theorem exists_last
    (hhead : FullHead head method route version headers body.length)
    (hstart : StartsBody body) :
    ∃ front last,
      head ++ (Bytes.lineEnd ++ body) = front ++ [last] ∧
        (Parser.new.feed front).report = .ok .more := by
  -- Without a body the last byte is the line feed of the empty line.
  rcases List.eq_nil_or_concat' body with rfl | ⟨init, b, rfl⟩
  · refine ⟨head ++ [Bytes.carriageReturn], Bytes.lineFeed, by simp [Bytes.lineEnd], ?_⟩
    have hreads := Reads.unfinishedHead (hhead [Bytes.carriageReturn]) (by decide)
    rw [Parser.feed_eq_advance]
    exact hreads.advance.1
  · refine ⟨head ++ (Bytes.lineEnd ++ init), b, by simp, ?_⟩
    have hline : Line (Bytes.lineEnd ++ init) [] ([] ++ init) :=
      line_append_lineEnd List.not_mem_nil init
    have hinit : StartsBody init := by
      intro c hc
      cases init with
      | nil => contradiction
      | cons d init => exact hstart c hc
    have hless : init.length < (init ++ [b]).length := by simp
    have hreads :=
      Reads.unfinishedBody (hhead _) hline (fun _ hb => by contradiction) hinit hless
    rw [Parser.feed_eq_advance]
    exact hreads.advance.1

end Ending
end Grammar

/-- While more bytes are needed, more were needed before. -/
theorem Parser.report_of_prefix
    {parser : Parser} {bytes front : Bytes}
    (hreport : (parser.feed bytes).report = .ok .more) (hfront : front <+: bytes) :
    (parser.feed front).report = .ok .more := by
  obtain ⟨rest, rfl⟩ := hfront
  by_contra hdone
  rw [← feed_feed, feed_of_report_ne rest hdone] at hreport
  exact hdone hreport

end HttpEngine
