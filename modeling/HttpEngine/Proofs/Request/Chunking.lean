import HttpEngine.Proofs.Bytes.Cut
import HttpEngine.Request.Parser

/-!
# How the bytes of a request are cut into chunks does not matter

A parser that is fed `a` and then `b` is left as if it had been fed `a ++ b` at
once. This holds for every parser, whatever it has read before, and carries
over to any number of chunks.

A line that a chunk cuts off is kept in the carry, where it meets the bytes of
the next chunk before anything is dropped from its end. The body is the other
place where a cut could show: line breaks before the first body byte are
skipped, so the skipping has to go on in the next chunk, and only then.
-/

namespace HttpEngine
namespace Parser

/-! ## One step of reading -/

@[simp]
theorem advance_nil (parser : Parser) : parser.advance [] = parser := by
  rw [advance]
  rfl

theorem advance_of_finished
    {parser : Parser} (chunk : Bytes)
    (hphase : parser.phase = .finished) :
    parser.advance chunk = parser := by
  rw [advance, hphase]
  simp

theorem advance_of_failed
    {parser : Parser} {fault : RequestFault} (chunk : Bytes)
    (hphase : parser.phase = .failed fault) :
    parser.advance chunk = parser := by
  rw [advance, hphase]
  simp

/-- In the body, a chunk is body bytes. -/
theorem advance_of_body
    {parser : Parser} {chunk : Bytes}
    (hphase : parser.phase = .body)
    (hchunk : chunk ≠ []) :
    parser.advance chunk = parser.takeBody chunk := by
  rw [advance, hphase]
  simp [hchunk]

/-- The parser is to read a line. -/
def ExpectsLine (parser : Parser) : Prop :=
  parser.phase = .requestLine ∨ parser.phase = .headers

/-- A chunk without a line end goes to the carry. -/
theorem advance_of_cut?_eq_none
    {parser : Parser} {chunk : Bytes}
    (hline : parser.ExpectsLine)
    (hcut : chunk.cut? Bytes.lineFeed = none) :
    parser.advance chunk = { parser with carry := parser.carry ++ chunk } := by
  cases chunk with
  | nil => simp
  | cons b rest =>
      rw [advance]
      rcases hline with hphase | hphase <;>
        · rw [hphase]
          simp only [List.isEmpty_cons, Bool.false_eq_true, if_false]
          split
          · rfl
          · next hsome => rw [hcut] at hsome; contradiction

/-- A chunk with a line end completes a line. -/
theorem advance_of_cut?_eq_some
    {parser : Parser} {chunk head tail : Bytes}
    (hline : parser.ExpectsLine)
    (hcut : chunk.cut? Bytes.lineFeed = some (head, tail)) :
    parser.advance chunk =
      (({ parser with carry := [] } : Parser).takeLine
        (parser.carry ++ head).dropReturn).advance tail := by
  have hchunk : chunk.isEmpty = false := by
    rw [Bytes.append_of_cut?_eq_some hcut]
    simp
  rw [advance]
  rcases hline with hphase | hphase <;>
    · rw [hphase]
      simp only [hchunk, Bool.false_eq_true, if_false]
      split
      · next hnone => rw [hcut] at hnone; contradiction
      · next head' tail' hsome =>
          rw [hcut] at hsome
          simp only [Option.some.injEq, Prod.mk.injEq] at hsome
          obtain ⟨rfl, rfl⟩ := hsome
          rfl

theorem phase_cases (parser : Parser) :
    parser.ExpectsLine ∨ parser.phase = .body ∨ parser.phase = .finished ∨
      ∃ fault, parser.phase = .failed fault := by
  unfold ExpectsLine
  cases parser.phase <;> simp

/-- Induction on the lines that end in a chunk. The phase and the next line end decide how
a chunk is read, and what follows a line is shorter. -/
@[elab_as_elim]
theorem chunk_induction
    {motive : Parser → Bytes → Prop}
    (empty : ∀ parser : Parser, motive parser [])
    (part : ∀ (parser : Parser) (chunk : Bytes),
      chunk ≠ [] → parser.ExpectsLine → chunk.cut? Bytes.lineFeed = none →
        motive parser chunk)
    (line : ∀ (parser : Parser) (chunk head tail : Bytes),
      chunk ≠ [] → parser.ExpectsLine → chunk.cut? Bytes.lineFeed = some (head, tail) →
        motive
            (({ parser with carry := [] } : Parser).takeLine (parser.carry ++ head).dropReturn)
            tail →
          motive parser chunk)
    (body : ∀ (parser : Parser) (chunk : Bytes),
      chunk ≠ [] → parser.phase = .body → motive parser chunk)
    (finished : ∀ (parser : Parser) (chunk : Bytes),
      parser.phase = .finished → motive parser chunk)
    (failed : ∀ (parser : Parser) (chunk : Bytes) (fault : RequestFault),
      parser.phase = .failed fault → motive parser chunk)
    (parser : Parser) (chunk : Bytes) : motive parser chunk := by
  induction hlength : chunk.length using Nat.strongRecOn generalizing parser chunk with
  | _ n ih =>
      by_cases hchunk : chunk = []
      · subst hchunk
        exact empty parser
      rcases parser.phase_cases with hline | hphase | hphase | ⟨fault, hphase⟩
      · cases hcut : chunk.cut? Bytes.lineFeed with
        | none => exact part parser chunk hchunk hline hcut
        | some parts =>
            obtain ⟨head, tail⟩ := parts
            have hless := Bytes.length_lt_of_cut?_eq_some hcut
            exact line parser chunk head tail hchunk hline hcut
              (ih tail.length (hlength ▸ hless) _ tail rfl)
      · exact body parser chunk hchunk hphase
      · exact finished parser chunk hphase
      · exact failed parser chunk fault hphase

theorem feed_eq_advance (parser : Parser) (chunk : Bytes) :
    parser.feed chunk = parser.advance chunk := by
  unfold feed
  split
  · next hphase => exact (advance_of_finished chunk hphase).symm
  · next hphase => exact (advance_of_failed chunk hphase).symm
  · rfl

/-! ## The body -/

/-- The body bytes among some bytes that follow what has been read of the
body. -/
def bodyPart (body bytes : Bytes) : Bytes :=
  if body.isEmpty then bytes.dropWhile Bytes.isLineBreak else bytes

/-- What a chunk makes of the body read so far. -/
def grownBody (length : Nat) (body bytes : Bytes) : Bytes :=
  body ++ (bodyPart body bytes).take (length - body.length)

theorem takeBody_eq (parser : Parser) (bytes : Bytes) :
    parser.takeBody bytes =
      { parser with
        phase :=
          if (grownBody parser.contentLength (parser.request.body.getD []) bytes).length =
              parser.contentLength then
            .finished
          else .body
        request :=
          { parser.request with
            body :=
              some (grownBody parser.contentLength (parser.request.body.getD []) bytes) } } := by
  rw [grownBody, List.length_append]
  rfl

/-- A body that has reached its length does not grow any more. -/
theorem grownBody_append_of_complete
    {length : Nat} {body a : Bytes} (b : Bytes)
    (hcomplete : (grownBody length body a).length = length) :
    grownBody length body (a ++ b) = grownBody length body a := by
  unfold grownBody at hcomplete ⊢
  rw [List.length_append, List.length_take] at hcomplete
  have hpart :
      (bodyPart body (a ++ b)).take (length - body.length) =
        (bodyPart body a).take (length - body.length) := by
    by_cases hnone : length - body.length = 0
    · simp [hnone]
    · have hlong : length - body.length ≤ (bodyPart body a).length := by omega
      have happend : bodyPart body (a ++ b) = bodyPart body a ++ b := by
        unfold bodyPart at hlong ⊢
        split
        · next hempty =>
            rw [if_pos hempty] at hlong
            rw [List.dropWhile_append, if_neg]
            intro hdrop
            rw [List.isEmpty_iff] at hdrop
            rw [hdrop, List.length_nil] at hlong
            omega
        · rfl
      rw [happend, List.take_append_of_le_length hlong]
  rw [hpart]

/-- A body that has not reached its length goes on growing where it was. -/
theorem grownBody_grownBody
    {length : Nat} {body a : Bytes} (b : Bytes)
    (hmore : (grownBody length body a).length ≠ length) :
    grownBody length (grownBody length body a) b = grownBody length body (a ++ b) := by
  by_cases hover : length < body.length
  · -- No byte is wanted, so none is taken from either chunk.
    have hnone : length - body.length = 0 := by omega
    simp [grownBody, hnone]
  · have hshort : (bodyPart body a).length < length - body.length := by
      unfold grownBody at hmore
      rw [List.length_append, List.length_take] at hmore
      omega
    have hgrown : grownBody length body a = body ++ bodyPart body a := by
      rw [grownBody, List.take_of_length_le (Nat.le_of_lt hshort)]
    have hpart :
        bodyPart body (a ++ b) =
          bodyPart body a ++ bodyPart (body ++ bodyPart body a) b := by
      cases body with
      | cons x body => simp [bodyPart]
      | nil =>
          simp only [bodyPart, List.isEmpty_nil, if_true, List.nil_append,
            List.dropWhile_append]
          split
          · next hdrop => simp [List.isEmpty_iff.mp hdrop]
          · rfl
    calc
      grownBody length (grownBody length body a) b
          = body ++ bodyPart body a ++
              (bodyPart (body ++ bodyPart body a) b).take
                (length - (body ++ bodyPart body a).length) := by
        rw [hgrown, grownBody]
      _ = body ++ (bodyPart body a ++ bodyPart (body ++ bodyPart body a) b).take
            (length - body.length) := by
        rw [List.take_append, List.take_of_length_le (Nat.le_of_lt hshort),
          List.append_assoc, List.length_append, Nat.sub_add_eq]
      _ = grownBody length body (a ++ b) := by
        rw [← hpart, grownBody]

/-! ## Two chunks and more -/

/-- Body bytes may come in two chunks. -/
theorem advance_takeBody
    (parser : Parser) (a b : Bytes) :
    (parser.takeBody a).advance b = parser.takeBody (a ++ b) := by
  by_cases hcomplete :
      (grownBody parser.contentLength (parser.request.body.getD []) a).length =
        parser.contentLength
  · have hphase : (parser.takeBody a).phase = .finished := by
      rw [takeBody_eq]
      exact if_pos hcomplete
    rw [advance_of_finished b hphase, takeBody_eq, takeBody_eq,
      grownBody_append_of_complete b hcomplete]
  · have hphase : (parser.takeBody a).phase = .body := by
      rw [takeBody_eq]
      exact if_neg hcomplete
    have hgrown := grownBody_grownBody b hcomplete
    have htwice : (parser.takeBody a).takeBody b = parser.takeBody (a ++ b) := by
      rw [takeBody_eq parser, takeBody_eq, takeBody_eq]
      simp only [Option.getD_some, hgrown]
    cases b with
    | nil => rw [advance_nil, List.append_nil]
    | cons x b => rw [advance_of_body hphase (by simp), htwice]

/-- The bytes of a request may come in two chunks: every line that ends in the first one
is taken by both sides. -/
theorem advance_advance (parser : Parser) (a b : Bytes) :
    (parser.advance a).advance b = parser.advance (a ++ b) := by
  induction parser, a using chunk_induction with
  | empty parser => rw [advance_nil, List.nil_append]
  | part parser a _ hline hcut =>
      rw [advance_of_cut?_eq_none hline hcut]
      have hline' : ({ parser with carry := parser.carry ++ a } : Parser).ExpectsLine := hline
      have happend := Bytes.cut?_append_of_eq_none b hcut
      cases hmore : b.cut? Bytes.lineFeed with
      | none =>
          rw [hmore, Option.map_none] at happend
          rw [advance_of_cut?_eq_none hline' hmore,
            advance_of_cut?_eq_none hline happend, List.append_assoc]
      | some parts =>
          obtain ⟨head, tail⟩ := parts
          rw [hmore, Option.map_some] at happend
          rw [advance_of_cut?_eq_some hline' hmore,
            advance_of_cut?_eq_some hline happend, List.append_assoc]
  | line parser a head tail _ hline hcut ih =>
      rw [advance_of_cut?_eq_some hline hcut,
        advance_of_cut?_eq_some hline (Bytes.cut?_append_of_eq_some b hcut), ih]
  | body parser a ha hphase =>
      rw [advance_of_body hphase ha,
        advance_of_body hphase (List.append_ne_nil_of_left_ne_nil ha b)]
      exact advance_takeBody parser a b
  | finished parser a hphase => simp only [advance_of_finished _ hphase]
  | failed parser a fault hphase => simp only [advance_of_failed _ hphase]

/-- Feeding two chunks is feeding their concatenation. -/
theorem feed_feed (parser : Parser) (a b : Bytes) :
    (parser.feed a).feed b = parser.feed (a ++ b) := by
  simp only [feed_eq_advance, advance_advance]

/-- Feeding any number of chunks is feeding their concatenation. -/
theorem foldl_feed (parser : Parser) (chunks : List Bytes) :
    chunks.foldl feed parser = parser.feed chunks.flatten := by
  induction chunks generalizing parser with
  | nil =>
      rw [List.foldl_nil, List.flatten_nil, feed_eq_advance, advance_nil]
  | cons chunk chunks ih =>
      rw [List.foldl_cons, List.flatten_cons, ih, feed_feed]

/-- A report other than that more is needed is final. -/
theorem feed_of_report_ne
    {parser : Parser} (chunk : Bytes)
    (hreport : parser.report ≠ .ok .more) :
    parser.feed chunk = parser := by
  rw [feed_eq_advance]
  rcases parser.phase_cases with (hphase | hphase) | hphase | hphase | ⟨fault, hphase⟩
  · simp [report, hphase] at hreport
  · simp [report, hphase] at hreport
  · simp [report, hphase] at hreport
  · exact advance_of_finished chunk hphase
  · exact advance_of_failed chunk hphase

/-- However a request is cut into chunks, the report, the phase and the request
after each chunk are those of a new parser that is fed all bytes so far in one
chunk; and a report other than that more is needed is repeated by the same
parser for ever after. -/
theorem report_phase_request_of_chunks
    (capacity : Nat) (chunks : List Bytes) (i : Nat) :
    let stepwise := (chunks.take i).foldl feed (withCapacity capacity)
    let once := (withCapacity capacity).feed (chunks.take i).flatten
    stepwise.report = once.report ∧
      stepwise.phase = once.phase ∧
      stepwise.request = once.request ∧
      (once.report = .ok .more ∨
        ∀ later : List Bytes, later.foldl feed stepwise = stepwise) := by
  intro stepwise once
  have hsame : stepwise = once := foldl_feed _ _
  refine ⟨congrArg report hsame, congrArg phase hsame, congrArg request hsame, ?_⟩
  by_cases hmore : once.report = .ok .more
  · exact Or.inl hmore
  · refine Or.inr fun later => ?_
    rw [foldl_feed]
    exact feed_of_report_ne _ (hsame ▸ hmore)

end Parser
end HttpEngine
