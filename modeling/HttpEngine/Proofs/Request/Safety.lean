import HttpEngine.Proofs.Request.Language
import HttpEngine.Proofs.Request.Positions
import HttpEngine.Proofs.Request.Reuse

/-!
# Parsers are safe in every use

However a parser is used, what it carries over is part of one line that it is about to
read, and in the body some of the announced bytes are missing. That is `Sound`, and every
call keeps it: a request that is moved out half-read takes its headers and its body with
it, but neither the announced length nor the phase, so the next body begins anew with
the whole length missing.

In a sound parser every chunk is read to its end by positions, which are all in range.

If the request has not been moved out since the last reset, a complete one has the body
that its headers announce. For such a parser has read the bytes that were fed since the
reset and nothing else, and these begin with the head of a request.
-/

namespace HttpEngine

namespace Grammar

/-- The announced length is the number in the header that announces it, and zero where
there is none. -/
theorem Head.announced
    {bytes method route version rest : Bytes} {headers : List Header} {length : Nat}
    (hhead : Head bytes method route version headers length rest) :
    match (HeaderMap.ofHeaders headers).get? Parser.contentLengthName with
    | none => length = 0
    | some value => Decimal.IsWord value length := by
  induction hhead with
  | requestLine => rw [HeaderMap.get?_ofHeaders_nil]
  | header hhead hline hheader hfresh hother ih =>
      rw [Announces] at hother
      rw [HeaderMap.get?_ofHeaders_concat, hother, if_neg Bool.false_ne_true]
      exact ih
  | contentLength hhead hline hheader hfresh hannounces hword ih =>
      rw [Announces] at hannounces
      rw [HeaderMap.get?_ofHeaders_concat, if_pos hannounces]
      exact hword

end Grammar

namespace Parser

/-- What holds of a parser however it was used. -/
structure Sound (parser : Parser) : Prop where
  carry_free : Bytes.lineFeed ∉ parser.carry
  carry_nil : ¬ parser.ExpectsLine → parser.carry = []
  body_lt : parser.phase = .body → (parser.request.body.getD []).length < parser.contentLength

namespace Sound

variable {parser : Parser}

theorem of_carry_nil
    (hcarry : parser.carry = [])
    (hbody :
      parser.phase = .body → (parser.request.body.getD []).length < parser.contentLength) :
    parser.Sound where
  carry_free := by
    rw [hcarry]
    exact List.not_mem_nil
  carry_nil := fun _ => hcarry
  body_lt := hbody

theorem of_phase_ne_body (hcarry : parser.carry = []) (hphase : parser.phase ≠ .body) :
    parser.Sound :=
  of_carry_nil hcarry fun hbody => absurd hbody hphase

theorem new : Parser.new.Sound :=
  of_phase_ne_body rfl nofun

/-- A request that is moved out leaves the parser where it is, with no body byte yet. -/
theorem takeRequest (h : parser.Sound) : parser.takeRequest.2.Sound where
  carry_free := h.carry_free
  carry_nil := h.carry_nil
  body_lt := by
    intro hphase
    exact Nat.zero_lt_of_lt (h.body_lt hphase)

theorem fail (hcarry : parser.carry = []) (fault : RequestFault) : (parser.fail fault).Sound :=
  of_phase_ne_body hcarry nofun

theorem takeRequestLine (hcarry : parser.carry = []) (line : Bytes) :
    (parser.takeRequestLine line).Sound := by
  unfold Parser.takeRequestLine
  split
  · exact fail hcarry _
  · exact of_phase_ne_body hcarry nofun

/-- A header line may announce another length, but only before the body. -/
theorem takeHeader
    (hcarry : parser.carry = []) (hphase : parser.phase = .headers) (line : Bytes) :
    (parser.takeHeader line).Sound := by
  have hheaders :
      ∀ next : Parser, next.carry = [] → next.phase = parser.phase → next.Sound := by
    intro next hnext hsame
    refine of_phase_ne_body hnext ?_
    rw [hsame, hphase]
    exact nofun
  unfold Parser.takeHeader
  split
  · exact fail hcarry _
  · split
    · exact fail hcarry _
    · simp only
      split
      · split
        · refine fail ?_ _
          exact hcarry
        · exact hheaders _ hcarry rfl
      · exact hheaders _ hcarry rfl

/-- A body begins with all of its bytes missing. -/
theorem endHeaders (hcarry : parser.carry = []) : parser.endHeaders.Sound := by
  unfold Parser.endHeaders
  split
  · exact of_phase_ne_body hcarry nofun
  · next hsome => exact of_carry_nil hcarry fun _ => Nat.pos_of_ne_zero hsome

theorem takeLine
    (hcarry : parser.carry = []) (hline : parser.ExpectsLine) (line : Bytes) :
    (parser.takeLine line).Sound := by
  unfold Parser.takeLine
  rcases hline with hphase | hphase
  · rw [hphase]
    exact takeRequestLine hcarry line
  · simp only [hphase]
    split
    · exact endHeaders hcarry
    · exact takeHeader hcarry hphase line

/-- A body that is not complete is shorter than was announced. -/
theorem takeBody (h : parser.Sound) (hphase : parser.phase = .body) (bytes : Bytes) :
    (parser.takeBody bytes).Sound := by
  have hcarry : parser.carry = [] := by
    refine h.carry_nil ?_
    rintro (hother | hother)
    · rw [hphase] at hother
      contradiction
    · rw [hphase] at hother
      contradiction
  rw [takeBody_eq]
  refine of_carry_nil hcarry ?_
  have hless := h.body_lt hphase
  simp only [Option.getD_some]
  generalize parser.request.body.getD [] = body at *
  have hle : (grownBody parser.contentLength body bytes).length ≤ parser.contentLength := by
    rw [grownBody, List.length_append, List.length_take]
    omega
  split
  · intro hfinished
    cases hfinished
  · next hmore => exact fun _ => Nat.lt_of_le_of_ne hle hmore

/-- A sound parser reads a chunk to its end in range, and is sound again. -/
theorem advance (h : parser.Sound) (chunk : Bytes) :
    (parser.advance chunk).Sound ∧ Ends parser chunk (parser.advance chunk) := by
  induction parser, chunk using chunk_induction with
  | empty parser =>
      rw [advance_nil]
      exact ⟨h, .empty parser⟩
  | part parser chunk hchunk hline hcut =>
      rw [advance_of_cut?_eq_none hline hcut]
      refine ⟨⟨?_, ?_, ?_⟩, .leaves hchunk (turn?_of_cut?_eq_none hline hcut)⟩
      · rw [List.mem_append]
        rintro (hmem | hmem)
        · exact h.carry_free hmem
        · exact Bytes.cut?_eq_none_iff.mp hcut hmem
      · exact fun hother => absurd hline hother
      · exact h.body_lt
  | line parser chunk head tail hchunk hline hcut ih =>
      rw [advance_of_cut?_eq_some hline hcut]
      have hempty : ({ parser with carry := [] } : Parser).ExpectsLine := hline
      obtain ⟨hsound, hends⟩ := ih (takeLine rfl hempty (parser.carry ++ head).dropReturn)
      refine ⟨hsound, ?_⟩
      rcases turn?_of_cut?_eq_some hline hcut rfl with hturn | ⟨hturn, fault, hfailed⟩
      · exact .goesOn hchunk hturn hends
      · rw [advance_of_failed tail hfailed]
        exact .leaves hchunk hturn
  | body parser chunk hchunk hphase =>
      rw [advance_of_body hphase hchunk]
      refine ⟨h.takeBody hphase chunk, ?_⟩
      obtain ⟨rest, hturn, hrest⟩ := turn?_of_body hphase (h.body_lt hphase).le chunk
      refine .goesOn hchunk hturn ?_
      rcases hrest with rfl | hfinished
      · exact .empty _
      · exact ends_of_finished hfinished rest
  | finished parser chunk hphase =>
      rw [advance_of_finished chunk hphase]
      exact ⟨h, ends_of_finished hphase chunk⟩
  | failed parser chunk fault hphase =>
      rw [advance_of_failed chunk hphase]
      exact ⟨h, ends_of_failed hphase chunk⟩

theorem feed (h : parser.Sound) (chunk : Bytes) :
    (parser.feed chunk).Sound ∧ Ends parser chunk (parser.feed chunk) := by
  rw [feed_eq_advance]
  exact h.advance chunk

theorem call (h : parser.Sound) (made : Call) : (parser.call made).2.Sound := by
  cases made with
  | feed chunk => exact (h.feed chunk).1
  | take => exact h.takeRequest
  | reset =>
      show parser.reset.Sound
      rw [reset_eq_new]
      exact new
  | request => exact h
  | phase => exact h
  | header name => exact h

theorem after (h : parser.Sound) (calls : List Call) : (parser.after calls).Sound := by
  induction calls generalizing parser with
  | nil => exact h
  | cons made calls ih => exact ih (h.call made)

set_option maxRecDepth 1600 in
/-- A body that is moved out half-read begins anew, with its whole length missing. -/
example :
    (Parser.new.after
        [.feed (Bytes.ofText "POST / HTTP/1.1\ncontent-length: 3\n\nab"), .take,
          .feed (Bytes.ofText "xyz")]).request.body =
      some (Bytes.ofText "xyz") := by
  cbv

end Sound

/-! ## Requests that were not moved out -/

/-- The request has not been moved out since the last reset. -/
def untaken (calls : List Call) : Bool :=
  calls.foldl (fun kept made =>
    match made with
    | .take => false
    | .reset => true
    | _ => kept) true

/-- The body is as long as the headers of the request announce, and is not there if they
announce none. -/
structure Measured (request : Request) : Prop where
  word :
    ∀ value, request.headers.get? contentLengthName = some value →
      Decimal.IsWord value (Decimal.value value)
  absent : request.headers.get? contentLengthName = none → request.body = none
  zero :
    ∀ value, request.headers.get? contentLengthName = some value → Decimal.value value = 0 →
      request.body = none
  exact :
    ∀ value, request.headers.get? contentLengthName = some value → Decimal.value value ≠ 0 →
      ∃ body, request.body = some body ∧ body.length = Decimal.value value

/-- The body that a head announces is the one that the headers announce. -/
theorem measured_of_head
    {bytes method route version rest : Bytes} {headers : List Header} {length : Nat}
    {body : Option Bytes}
    (hhead : Grammar.Head bytes method route version headers length rest)
    (hnone : length = 0 → body = none)
    (hsome : length ≠ 0 → ∃ found, body = some found ∧ found.length = length) :
    Measured ⟨method, route, version, .ofHeaders headers, body⟩ := by
  have hannounced := hhead.announced
  cases hget : (HeaderMap.ofHeaders headers).get? contentLengthName with
  | none =>
      rw [hget] at hannounced
      refine ⟨?_, fun _ => hnone hannounced, ?_, ?_⟩
      all_goals
        intro value hvalue
        rw [hget] at hvalue
        contradiction
  | some value =>
      rw [hget] at hannounced
      have hlength : Decimal.value value = length := hannounced.value_eq
      have hfound :
          ∀ other, (HeaderMap.ofHeaders headers).get? contentLengthName = some other →
            value = other := by
        intro other hother
        rw [hget] at hother
        exact Option.some.inj hother
      refine ⟨?_, ?_, ?_, ?_⟩
      · intro other hother
        rw [← hfound other hother, hlength]
        exact hannounced
      · intro hmissing
        rw [hget] at hmissing
        contradiction
      · intro other hother hzero
        rw [← hfound other hother, hlength] at hzero
        exact hnone hzero
      · intro other hother hpos
        rw [← hfound other hother, hlength] at hpos ⊢
        exact hsome hpos

/-- A new parser that has read a request to its end has the body that was announced. -/
theorem measured_of_finished
    {bytes : Bytes} (hphase : (new.feed bytes).phase = .finished) :
    Measured (new.feed bytes).request := by
  rw [feed_eq_advance] at hphase ⊢
  obtain ⟨result, request, hreads⟩ := Grammar.exists_reads bytes
  obtain ⟨hreport, hrequest⟩ := hreads.advance
  have hcomplete : result = .ok .complete := by
    rw [← hreport, report, hphase]
  rw [hrequest]
  subst hcomplete
  cases hreads with
  | withoutBody hhead hline =>
      exact measured_of_head hhead (fun _ => rfl) fun hpos => absurd rfl hpos
  | withBody hhead hline hbreaks hstart hpos hlength =>
      exact
        measured_of_head hhead (fun hzero => absurd hzero hpos.ne') fun _ => ⟨_, rfl, hlength⟩

/-- A parser whose request was not moved out has read what was fed since the reset. -/
theorem exists_feed_of_untaken
    (capacity : Nat) {calls : List Call} (huntaken : untaken calls = true) :
    ∃ bytes, (withCapacity capacity).after calls = new.feed bytes := by
  have hnew : new = new.feed [] := by
    rw [feed_eq_advance, advance_nil]
  induction calls using List.reverseRecOn with
  | nil => exact ⟨[], (withCapacity_eq_new capacity).trans hnew⟩
  | append_singleton calls made ih =>
      rw [untaken, List.foldl_append] at huntaken
      rw [after_concat]
      cases made with
      | feed chunk =>
          obtain ⟨bytes, hbytes⟩ := ih huntaken
          refine ⟨bytes ++ chunk, ?_⟩
          rw [hbytes]
          exact feed_feed new bytes chunk
      | take => cases huntaken
      | reset => exact ⟨[], (reset_eq_new _).trans hnew⟩
      | request => exact ih huntaken
      | phase => exact ih huntaken
      | header name => exact ih huntaken

/-- Whatever was done with a parser, every chunk that it is fed next is read to its end in
range, what it carries over has no line end and is nothing where no line is expected, and
in the body a part of the announced length is missing. If the request was not moved out
since the last reset, a complete request has the body that its headers announce. -/
theorem safe_after_calls (capacity : Nat) (calls : List Call) :
    let parser := (withCapacity capacity).after calls
    (∀ chunk, Ends parser chunk (parser.feed chunk)) ∧
      Bytes.lineFeed ∉ parser.carry ∧
      (parser.phase ≠ .requestLine → parser.phase ≠ .headers → parser.carry = []) ∧
      (parser.phase = .body →
        0 < parser.contentLength ∧
          (parser.request.body.getD []).length < parser.contentLength) ∧
      (untaken calls = true → parser.phase = .finished → Measured parser.request) := by
  intro parser
  have hsound : parser.Sound := by
    refine Sound.after ?_ calls
    rw [withCapacity_eq_new]
    exact Sound.new
  refine ⟨fun chunk => (hsound.feed chunk).2, hsound.carry_free, ?_, ?_, ?_⟩
  · intro hrequestLine hheaders
    refine hsound.carry_nil ?_
    rintro (hphase | hphase)
    · exact hrequestLine hphase
    · exact hheaders hphase
  · intro hphase
    have hless := hsound.body_lt hphase
    exact ⟨Nat.zero_lt_of_lt hless, hless⟩
  · intro huntaken hphase
    obtain ⟨bytes, hbytes⟩ := exists_feed_of_untaken capacity huntaken
    have hparser : parser = new.feed bytes := hbytes
    rw [hparser] at hphase ⊢
    exact measured_of_finished hphase

end Parser
end HttpEngine
