import HttpEngine.Proofs.Header.Equality
import HttpEngine.Proofs.Request.Chunking
import HttpEngine.Proofs.Request.Reuse

/-!
# The headers of a request

Whatever is done with a parser, the headers of its request are changed by edits alone: a
header line offers a header, and a reset or moving the request out clears the map. So the
index of the headers agrees with their list in every request that a parser holds at any
moment, half-read and malformed ones included, and two such requests are equal if and only
if they have the same content.
-/

namespace HttpEngine

namespace HeaderMap

/-- Some edits lead from the first header map to the second. -/
def EditsTo (map next : HeaderMap) : Prop :=
  ∃ edits, next = map.editAll edits

namespace EditsTo

variable {map next last : HeaderMap}

theorem refl (map : HeaderMap) : map.EditsTo map :=
  ⟨[], rfl⟩

theorem trans (hfirst : map.EditsTo next) (hsecond : next.EditsTo last) : map.EditsTo last := by
  obtain ⟨edits, rfl⟩ := hfirst
  obtain ⟨others, rfl⟩ := hsecond
  exact ⟨edits ++ others, (editAll_append map edits others).symm⟩

theorem empty (map : HeaderMap) : map.EditsTo HeaderMap.empty :=
  ⟨[.clear], (clear_eq_empty map).symm⟩

end EditsTo
end HeaderMap

namespace Parser

variable {parser : Parser} {line : Bytes} {name : HeaderName} {value : Bytes}

/-! ## Header lines -/

/-- A header line whose name is taken is a fault and changes nothing else. -/
theorem takeHeader_of_contains
    (hsplit : splitHeader line = .ok (name, value))
    (hcontains : parser.request.headers.contains name = true) :
    parser.takeHeader line = parser.fail .duplicateHeader := by
  rw [takeHeader, hsplit]
  simp only [HeaderMap.insert?_eq_none_iff.mpr hcontains]

/-- A header line with a new name appends a header. It is a fault only if it announces a
length that is no number. -/
theorem takeHeader_of_not_contains
    (hsplit : splitHeader line = .ok (name, value))
    (hcontains : parser.request.headers.contains name = false) :
    parser.request.headers.insert? name value = some (parser.takeHeader line).request.headers ∧
      ((parser.takeHeader line).phase = parser.phase ∨
        (parser.takeHeader line).phase = .failed .invalidContentLength) := by
  obtain ⟨next, hinsert⟩ : ∃ next, parser.request.headers.insert? name value = some next :=
    ⟨_, HeaderMap.insert?_eq_some_iff.mpr ⟨hcontains, rfl⟩⟩
  rw [takeHeader, hsplit]
  simp only [hinsert]
  split
  · split
    · exact ⟨rfl, Or.inr rfl⟩
    · exact ⟨rfl, Or.inl rfl⟩
  · exact ⟨rfl, Or.inl rfl⟩

/-- What becomes of a header line: it is refused as a duplicate if and only if its name is
among the headers, nothing changes then, and otherwise one header is appended. -/
structure Files (parser : Parser) : Prop where
  duplicate_iff : ∀ (line : Bytes) (name : HeaderName) (value : Bytes),
    splitHeader line = .ok (name, value) → parser.phase = .headers →
      ((parser.takeHeader line).phase = .failed .duplicateHeader ↔
        parser.request.headers.contains name = true)
  request_of_contains : ∀ (line : Bytes) (name : HeaderName) (value : Bytes),
    splitHeader line = .ok (name, value) → parser.request.headers.contains name = true →
      (parser.takeHeader line).request = parser.request
  headers_of_not_contains : ∀ (line : Bytes) (name : HeaderName) (value : Bytes),
    splitHeader line = .ok (name, value) → parser.request.headers.contains name = false →
      (parser.takeHeader line).request.headers.headers =
        parser.request.headers.headers ++ [{ name := name, value := value }]

theorem files (parser : Parser) : parser.Files where
  duplicate_iff := by
    intro line name value hsplit hphase
    cases hcontains : parser.request.headers.contains name with
    | true =>
        rw [takeHeader_of_contains hsplit hcontains]
        exact iff_of_true rfl rfl
    | false =>
        refine iff_of_false ?_ Bool.false_ne_true
        rcases (takeHeader_of_not_contains hsplit hcontains).2 with hnext | hnext
        · rw [hnext, hphase]
          exact nofun
        · rw [hnext]
          exact nofun
  request_of_contains := by
    intro line name value hsplit hcontains
    rw [takeHeader_of_contains hsplit hcontains]
    rfl
  headers_of_not_contains := by
    intro line name value hsplit hcontains
    obtain ⟨hinsert, -⟩ := takeHeader_of_not_contains hsplit hcontains
    obtain ⟨-, hnext⟩ := HeaderMap.insert?_eq_some_iff.mp hinsert
    rw [hnext]

/-! ## Every use of a parser -/

theorem editsTo_takeRequestLine (parser : Parser) (line : Bytes) :
    parser.request.headers.EditsTo (parser.takeRequestLine line).request.headers := by
  unfold takeRequestLine
  split
  · exact .refl _
  · exact .refl _

theorem editsTo_takeHeader (parser : Parser) (line : Bytes) :
    parser.request.headers.EditsTo (parser.takeHeader line).request.headers := by
  cases hsplit : splitHeader line with
  | error fault =>
      rw [takeHeader, hsplit]
      exact .refl _
  | ok parts =>
      obtain ⟨name, value⟩ := parts
      cases hcontains : parser.request.headers.contains name with
      | true =>
          rw [takeHeader_of_contains hsplit hcontains]
          exact .refl _
      | false =>
          obtain ⟨hinsert, -⟩ := takeHeader_of_not_contains hsplit hcontains
          refine ⟨[.insert name value], ?_⟩
          rw [HeaderMap.editAll, List.foldl_cons, HeaderMap.edit, hinsert]
          rfl

theorem editsTo_endHeaders (parser : Parser) :
    parser.request.headers.EditsTo parser.endHeaders.request.headers := by
  unfold endHeaders
  split
  · exact .refl _
  · exact .refl _

theorem editsTo_takeLine (parser : Parser) (line : Bytes) :
    parser.request.headers.EditsTo (parser.takeLine line).request.headers := by
  unfold takeLine
  split
  · exact editsTo_takeRequestLine parser line
  · split
    · exact editsTo_endHeaders parser
    · exact editsTo_takeHeader parser line

/-- Reading a chunk edits the headers. -/
theorem editsTo_advance (parser : Parser) (chunk : Bytes) :
    parser.request.headers.EditsTo (parser.advance chunk).request.headers := by
  induction parser, chunk using chunk_induction with
  | empty parser =>
      rw [advance_nil]
      exact .refl _
  | part parser chunk _ hline hcut =>
      rw [advance_of_cut?_eq_none hline hcut]
      exact .refl _
  | line parser chunk head tail _ hline hcut ih =>
      rw [advance_of_cut?_eq_some hline hcut]
      have htake :=
        editsTo_takeLine { parser with carry := [] } (parser.carry ++ head).dropReturn
      exact htake.trans ih
  | body parser chunk hchunk hphase =>
      rw [advance_of_body hphase hchunk]
      exact .refl _
  | finished parser chunk hphase =>
      rw [advance_of_finished chunk hphase]
      exact .refl _
  | failed parser chunk fault hphase =>
      rw [advance_of_failed chunk hphase]
      exact .refl _

theorem editsTo_call (parser : Parser) (made : Call) :
    parser.request.headers.EditsTo (parser.call made).2.request.headers := by
  cases made with
  | feed chunk =>
      rw [call, feed_eq_advance]
      exact editsTo_advance parser chunk
  | take => exact .empty _
  | reset =>
      rw [call, reset_eq_new, ← withCapacity_eq_new 0]
      exact .empty _
  | request => exact .refl _
  | phase => exact .refl _
  | header name => exact .refl _

theorem editsTo_after (parser : Parser) (calls : List Call) :
    parser.request.headers.EditsTo (parser.after calls).request.headers := by
  induction calls generalizing parser with
  | nil => exact .refl _
  | cons made calls ih => exact (editsTo_call parser made).trans (ih (parser.call made).2)

/-- The headers of a request come about by edits of an empty header map. -/
theorem exists_edits_after (capacity : Nat) (calls : List Call) :
    ∃ edits, ((withCapacity capacity).after calls).request.headers =
      HeaderMap.empty.editAll edits := by
  have hedits := editsTo_after (withCapacity capacity) calls
  have hempty : (withCapacity capacity).request.headers = HeaderMap.empty :=
    HeaderMap.withCapacity_eq_empty capacity
  rwa [hempty] at hedits

theorem coherent_after (capacity : Nat) (calls : List Call) :
    ((withCapacity capacity).after calls).request.headers.Coherent := by
  obtain ⟨edits, hedits⟩ := exists_edits_after capacity calls
  rw [hedits]
  exact HeaderMap.coherent_empty.editAll edits

/-- After any edits a header map has the first header of each name that was offered since
it was cleared, its index agrees with its list of headers, and every answer is the one that
the list gives. The headers of a request, whatever was done with the parser, come about by
such edits: a header line is refused as a duplicate if and only if its name is among the
headers, and is appended otherwise. -/
theorem header_index_agrees :
    (∀ (capacity : Nat) (edits : List HeaderMap.Edit),
      let map := (HeaderMap.withCapacity capacity).editAll edits
      map.headers = HeaderMap.firstOfEachName (HeaderMap.offered edits) ∧
        map.Coherent ∧ map.Answers) ∧
      ∀ (capacity : Nat) (calls : List Call),
        let parser := (withCapacity capacity).after calls
        (∃ edits, parser.request.headers = HeaderMap.empty.editAll edits) ∧
          parser.request.headers.Coherent ∧ parser.request.headers.Answers ∧ parser.Files := by
  constructor
  · intro capacity edits
    have hcoherent := HeaderMap.coherent_empty.editAll edits
    rw [HeaderMap.withCapacity_eq_empty]
    exact ⟨HeaderMap.headers_editAll edits, hcoherent, hcoherent.answers⟩
  · intro capacity calls
    have hcoherent := coherent_after capacity calls
    exact ⟨exists_edits_after capacity calls, hcoherent, hcoherent.answers, files _⟩

/-- Two requests that parsers hold, whatever was done with the parsers, are equal if and
only if they have the same content, and their headers are equal if and only if they are the
same one by one. -/
theorem beq_iff_sameContent (capacity room : Nat) (calls others : List Call) :
    let request := ((withCapacity capacity).after calls).request
    let other := ((withCapacity room).after others).request
    ((request == other) = true ↔ SameContent request other) ∧
      ((request.headers == other.headers) = true ↔
        SameHeaders request.headers.headers other.headers.headers) := by
  intro request other
  have hcoherent : request.headers.Coherent := coherent_after capacity calls
  have hother : other.headers.Coherent := coherent_after room others
  exact ⟨Request.beq_iff hcoherent hother, hcoherent.beq_iff hother⟩

end Parser
end HttpEngine
