import HttpEngine.Proofs.Request.Chunking
import HttpEngine.Proofs.Request.Lines

/-!
# The parser reads the language of requests

A new parser that is fed a byte string reports what the grammar says is to be
reported of it, and holds the parts that the grammar says it holds, and nothing
else.

A `Head` of the grammar brings the parser into the state `inHeaders`, where the
headers, the announced length and the bytes that are left determine the rest. In
the other direction, every byte string is read in one of the ways of `Reads`:
what is left after a head has no line, or has a line that ends the head, or a
line that is at fault, or one more header.
-/

namespace HttpEngine
namespace Grammar

/-- The parser between two header lines. -/
def inHeaders
    (method route version : Bytes) (headers : List Header) (length : Nat) :
    Parser :=
  { phase := .headers
    carry := []
    contentLength := length
    request := ⟨method, route, version, .ofHeaders headers, none⟩ }

/-- The parser right after the header block, when there is a body. -/
def inBody
    (method route version : Bytes) (headers : List Header) (length : Nat) (body : Bytes) :
    Parser :=
  { phase := .body
    carry := []
    contentLength := length
    request := ⟨method, route, version, .ofHeaders headers, some body⟩ }

theorem new_eq :
    Parser.new =
      { phase := .requestLine
        carry := []
        contentLength := 0
        request := ⟨[], [], [], .ofHeaders [], none⟩ } := by
  rw [Parser.new, Parser.withCapacity, Request.withHeaderCapacity,
    HeaderMap.withCapacity_eq_ofHeaders_nil]

/-! ## Lines that the parser meets -/

/-- A parser that expects a line takes the line that is there. -/
theorem Line.advance
    {bytes line rest : Bytes} {parser : Parser}
    (hline : Line bytes line rest)
    (hexpects : parser.ExpectsLine)
    (hcarry : parser.carry = []) :
    parser.advance bytes = (parser.takeLine line).advance rest := by
  obtain ⟨raw, rfl, hfree, hraw⟩ := hline
  have hsame : ({ parser with carry := [] } : Parser) = parser := by
    rw [← hcarry]
  rw [Parser.advance_of_cut?_eq_some hexpects (Bytes.cut?_append_cons rest hfree), hsame,
    hcarry, List.nil_append, Bytes.lineOf_iff_dropReturn.mp hraw]

/-- Bytes without a line change neither the report nor the request. -/
theorem advance_of_not_mem
    {bytes : Bytes} (parser : Parser)
    (hfree : Bytes.lineFeed ∉ bytes)
    (hexpects : parser.ExpectsLine) :
    (parser.advance bytes).report = .ok .more ∧
      (parser.advance bytes).request = parser.request := by
  rw [Parser.advance_of_cut?_eq_none hexpects (Bytes.cut?_eq_none_iff.mpr hfree)]
  refine ⟨?_, rfl⟩
  rcases hexpects with hphase | hphase <;> simp [Parser.report, hphase]

section Headers

variable {method route version : Bytes}
variable {headers : List Header}
variable {length : Nat}

theorem inHeaders_expectsLine :
    (inHeaders method route version headers length).ExpectsLine :=
  Or.inr rfl

/-- A line that is not empty is taken as a header line. -/
theorem takeLine_inHeaders
    {line : Bytes} (hne : line ≠ []) :
    (inHeaders method route version headers length).takeLine line =
      (inHeaders method route version headers length).takeHeader line := by
  simp [Parser.takeLine, inHeaders, hne]

theorem takeLine_of_fault
    {line : Bytes} {fault : RequestFault}
    (hne : line ≠ [])
    (hfault : HeaderLineFault line fault) :
    (inHeaders method route version headers length).takeLine line =
      (inHeaders method route version headers length).fail fault := by
  rw [takeLine_inHeaders hne, Parser.takeHeader, hfault.split]

theorem takeLine_of_not_fresh
    {line : Bytes} {header : Header}
    (hheader : HeaderLine line header)
    (htaken : ¬ Fresh headers header.name) :
    (inHeaders method route version headers length).takeLine line =
      (inHeaders method route version headers length).fail .duplicateHeader := by
  rw [takeLine_inHeaders hheader.ne_nil, Parser.takeHeader, hheader.split]
  simp only [inHeaders, HeaderMap.insert?_ofHeaders_of_not_fresh header.value htaken]

theorem takeLine_of_other
    {line : Bytes} {header : Header}
    (hheader : HeaderLine line header)
    (hfresh : Fresh headers header.name)
    (hother : Announces header = false) :
    (inHeaders method route version headers length).takeLine line =
      inHeaders method route version (headers ++ [header]) length := by
  rw [Announces] at hother
  rw [takeLine_inHeaders hheader.ne_nil, Parser.takeHeader, hheader.split]
  simp only [inHeaders, HeaderMap.insert?_ofHeaders_of_fresh header.value hfresh, hother,
    Bool.false_eq_true, if_false]

/-- A header that announces a length is added, and the length is noted. -/
theorem takeLine_of_announces
    {line : Bytes} {header : Header} {announced : Nat}
    (hheader : HeaderLine line header)
    (hfresh : Fresh headers header.name)
    (hannounces : Announces header = true)
    (hword : Decimal.IsWord header.value announced) :
    (inHeaders method route version headers length).takeLine line =
      inHeaders method route version (headers ++ [header]) announced := by
  rw [Announces] at hannounces
  rw [takeLine_inHeaders hheader.ne_nil, Parser.takeHeader, hheader.split]
  simp only [inHeaders, HeaderMap.insert?_ofHeaders_of_fresh header.value hfresh, hannounces,
    if_true, Decimal.read?_eq_some_iff.mpr hword]

/-- A header that announces a length which is no number is added, and is a
fault. -/
theorem takeLine_of_invalid
    {line : Bytes} {header : Header}
    (hheader : HeaderLine line header)
    (hfresh : Fresh headers header.name)
    (hannounces : Announces header = true)
    (hword : ∀ n, ¬ Decimal.IsWord header.value n) :
    (inHeaders method route version headers length).takeLine line =
      (inHeaders method route version (headers ++ [header]) length).fail
        .invalidContentLength := by
  rw [Announces] at hannounces
  rw [takeLine_inHeaders hheader.ne_nil, Parser.takeHeader, hheader.split]
  simp only [inHeaders, HeaderMap.insert?_ofHeaders_of_fresh header.value hfresh, hannounces,
    if_true, Decimal.read?_eq_none_iff.mpr hword]

theorem takeLine_nil_zero :
    (inHeaders method route version headers 0).takeLine [] =
      { inHeaders method route version headers 0 with phase := .finished } := by
  simp [Parser.takeLine, Parser.endHeaders, inHeaders]

/-- The empty line is followed by the body that was announced. -/
theorem takeLine_nil_pos (hpos : 0 < length) :
    (inHeaders method route version headers length).takeLine [] =
      inBody method route version headers length [] := by
  have hne : length ≠ 0 := by omega
  simp [Parser.takeLine, Parser.endHeaders, inHeaders, inBody, hne]

theorem advance_fail
    (parser : Parser) (fault : RequestFault) (bytes : Bytes) :
    (parser.fail fault).advance bytes = parser.fail fault :=
  Parser.advance_of_failed bytes rfl

theorem startsBody_append
    {body : Bytes} (rest : Bytes)
    (hne : body ≠ [])
    (hstart : StartsBody body) :
    StartsBody (body ++ rest) := by
  intro b hb
  rw [List.head?_append_of_ne_nil _ hne] at hb
  exact hstart b hb

/-- What the parser makes of the bytes after the header block. -/
theorem advance_inBody
    {breaks body : Bytes} (rest : Bytes)
    (hpos : 0 < length)
    (hbreaks : LineBreaks breaks)
    (hstart : StartsBody (body ++ rest))
    (htake : (body ++ rest).take length = body) :
    (inBody method route version headers length []).advance (breaks ++ (body ++ rest)) =
      { inBody method route version headers length body with
        phase := if body.length = length then .finished else .body } := by
  have hdrop : (breaks ++ (body ++ rest)).dropWhile Bytes.isLineBreak = body ++ rest := by
    rw [List.dropWhile_append_of_pos hbreaks]
    cases hbytes : body ++ rest with
    | nil => rfl
    | cons b bytes =>
        rw [hbytes] at hstart
        rw [List.dropWhile_cons_of_neg]
        simp [hstart b rfl]
  have hgrown : Parser.grownBody length [] (breaks ++ (body ++ rest)) = body := by
    simp [Parser.grownBody, Parser.bodyPart, hdrop, htake]
  cases hbytes : breaks ++ (body ++ rest) with
  | nil =>
      obtain ⟨-, hnil⟩ := List.append_eq_nil_iff.mp hbytes
      obtain ⟨rfl, -⟩ := List.append_eq_nil_iff.mp hnil
      have hne : ([] : Bytes).length ≠ length := by
        rw [List.length_nil]
        omega
      rw [Parser.advance_nil, if_neg hne]
      rfl
  | cons b bytes =>
      rw [Parser.advance_of_body rfl (by simp), ← hbytes, Parser.takeBody_eq]
      simp only [inBody, Option.getD_some, hgrown]

end Headers

/-! ## From the grammar to the parser -/

/-- A head brings the parser between two header lines. -/
theorem Head.advance
    {bytes method route version rest : Bytes} {headers : List Header} {length : Nat}
    (hhead : Head bytes method route version headers length rest) :
    Parser.new.advance bytes =
      (inHeaders method route version headers length).advance rest := by
  induction hhead with
  | requestLine hline hparts =>
      rw [hline.advance (Or.inl rfl) rfl, new_eq]
      simp [Parser.takeLine, Parser.takeRequestLine, hparts.split, inHeaders]
  | header hhead hline hheader hfresh hother ih =>
      rw [ih, hline.advance inHeaders_expectsLine rfl,
        takeLine_of_other hheader hfresh hother]
  | contentLength hhead hline hheader hfresh hannounces hword ih =>
      rw [ih, hline.advance inHeaders_expectsLine rfl,
        takeLine_of_announces hheader hfresh hannounces hword]

/-- The line after a head is taken between header lines. -/
theorem Head.advance_line
    {bytes method route version middle line rest : Bytes} {headers : List Header} {length : Nat}
    (hhead : Head bytes method route version headers length middle)
    (hline : Line middle line rest) :
    Parser.new.advance bytes =
      ((inHeaders method route version headers length).takeLine line).advance rest := by
  rw [hhead.advance, hline.advance inHeaders_expectsLine rfl]

/-- What the grammar says of a byte string is what the parser makes of it. -/
theorem Reads.advance
    {bytes : Bytes} {result : Except RequestFault Progress} {request : Request}
    (hreads : Reads bytes result request) :
    (Parser.new.advance bytes).report = result ∧
      (Parser.new.advance bytes).request = request := by
  cases hreads with
  | noLine hfree =>
      obtain ⟨hreport, hrequest⟩ := advance_of_not_mem Parser.new hfree (Or.inl rfl)
      exact ⟨hreport, by rw [hrequest, new_eq]⟩
  | @badRequestLine line rest fault hline hfault hcode =>
      have htake : Parser.new.takeLine line = Parser.new.fail fault := by
        show Parser.new.takeRequestLine line = _
        rw [Parser.takeRequestLine, hfault.split]
      rw [hline.advance (Or.inl rfl) rfl, htake, advance_fail]
      exact ⟨rfl, by rw [new_eq]; rfl⟩
  | unfinishedHead hhead hfree =>
      rw [hhead.advance]
      exact advance_of_not_mem _ hfree inHeaders_expectsLine
  | badHeaderLine hhead hline hne hfault hcode =>
      rw [hhead.advance_line hline, takeLine_of_fault hne hfault, advance_fail]
      exact ⟨rfl, rfl⟩
  | duplicateHeader hhead hline hheader htaken =>
      rw [hhead.advance_line hline, takeLine_of_not_fresh hheader htaken, advance_fail]
      exact ⟨rfl, rfl⟩
  | invalidLength hhead hline hheader hfresh hannounces hword =>
      rw [hhead.advance_line hline, takeLine_of_invalid hheader hfresh hannounces hword,
        advance_fail]
      exact ⟨rfl, rfl⟩
  | withoutBody hhead hline =>
      rw [hhead.advance_line hline, takeLine_nil_zero, Parser.advance_of_finished _ rfl]
      exact ⟨rfl, rfl⟩
  | @unfinishedBody method route version middle breaks body headers length
      hhead hline hbreaks hstart hless =>
      have hpos : 0 < length := by omega
      have htake : (body ++ []).take length = body := by
        rw [List.append_nil, List.take_of_length_le (Nat.le_of_lt hless)]
      have hne : body.length ≠ length := by omega
      have hbody : (inBody method route version headers length []).advance (breaks ++ body) = _ :=
        List.append_nil body ▸ advance_inBody [] hpos hbreaks (by rwa [List.append_nil]) htake
      rw [hhead.advance_line hline, takeLine_nil_pos hpos, hbody, if_neg hne]
      exact ⟨rfl, rfl⟩
  | @withBody method route version middle breaks body rest headers length
      hhead hline hbreaks hstart hpos hlength =>
      have htake : (body ++ rest).take length = body := by
        rw [← hlength, List.take_left]
      have hne : body ≠ [] := by
        rintro rfl
        rw [List.length_nil] at hlength
        omega
      rw [hhead.advance_line hline, takeLine_nil_pos hpos,
        advance_inBody rest hpos hbreaks (startsBody_append rest hne hstart) htake,
        if_pos hlength]
      exact ⟨rfl, rfl⟩

/-! ## Every byte string is read -/

/-- Every byte string begins with a line unless it has no line feed. -/
theorem line_or_not_mem (bytes : Bytes) :
    Bytes.lineFeed ∉ bytes ∨
      ∃ line rest, Line bytes line rest ∧ rest.length < bytes.length := by
  cases hcut : bytes.cut? Bytes.lineFeed with
  | none => exact Or.inl (Bytes.cut?_eq_none_iff.mp hcut)
  | some parts =>
      obtain ⟨raw, rest⟩ := parts
      obtain ⟨hbytes, hfree⟩ := Bytes.cut?_eq_some_iff.mp hcut
      exact Or.inr ⟨raw.dropReturn, rest,
        ⟨raw, hbytes, hfree, Bytes.lineOf_iff_dropReturn.mpr rfl⟩,
        Bytes.length_lt_of_cut?_eq_some hcut⟩

/-- The bytes after the header block are read. -/
theorem exists_reads_of_end
    {bytes method route version middle rest : Bytes} {headers : List Header} {length : Nat}
    (hhead : Head bytes method route version headers length middle)
    (hline : Line middle [] rest) :
    ∃ result request, Reads bytes result request := by
  by_cases hzero : length = 0
  · subst hzero
    exact ⟨_, _, .withoutBody hhead hline⟩
  · have hbreaks : LineBreaks (rest.takeWhile Bytes.isLineBreak) :=
      fun b hb => List.mem_takeWhile_imp hb
    have hstart : StartsBody (rest.dropWhile Bytes.isLineBreak) := by
      intro b hb
      have hhead := List.head?_dropWhile_not Bytes.isLineBreak rest
      rw [hb] at hhead
      exact Bool.eq_false_iff.mpr (by simpa using hhead)
    have hsplit :
        rest = rest.takeWhile Bytes.isLineBreak ++ rest.dropWhile Bytes.isLineBreak :=
      List.takeWhile_append_dropWhile.symm
    by_cases hless : (rest.dropWhile Bytes.isLineBreak).length < length
    · rw [hsplit] at hline
      exact ⟨_, _, .unfinishedBody hhead hline hbreaks hstart hless⟩
    · rw [hsplit, ← List.take_append_drop length (rest.dropWhile Bytes.isLineBreak)] at hline
      refine ⟨_, _, .withBody hhead hline hbreaks ?_ (by omega) ?_⟩
      · intro b hb
        refine hstart b ?_
        rwa [List.head?_take, if_neg hzero] at hb
      · rw [List.length_take]
        omega

/-- The bytes after a head are read. The induction is on what is left. -/
theorem exists_reads_of_head
    {bytes method route version : Bytes}
    (middle : Bytes) {headers : List Header} {length : Nat}
    (hhead : Head bytes method route version headers length middle) :
    ∃ result request, Reads bytes result request := by
  induction hn : middle.length using Nat.strongRecOn
    generalizing middle headers length with
  | _ n ih =>
      rcases line_or_not_mem middle with hfree | ⟨line, rest, hline, hless⟩
      · exact ⟨_, _, .unfinishedHead hhead hfree⟩
      · by_cases hempty : line = []
        · subst hempty
          exact exists_reads_of_end hhead hline
        · rcases headerLine_or_fault line with ⟨header, hheader⟩ | ⟨fault, hfault⟩
          · by_cases hfresh : Fresh headers header.name
            · cases hannounces : Announces header with
              | false =>
                  exact ih rest.length (hn ▸ hless) rest
                    (.header hhead hline hheader hfresh hannounces) rfl
              | true =>
                  by_cases hword : ∃ n, Decimal.IsWord header.value n
                  · obtain ⟨announced, hword⟩ := hword
                    exact ih rest.length (hn ▸ hless) rest
                      (.contentLength hhead hline hheader hfresh hannounces hword) rfl
                  · rw [not_exists] at hword
                    exact ⟨_, _, .invalidLength hhead hline hheader hfresh hannounces hword⟩
            · exact ⟨_, _, .duplicateHeader hhead hline hheader hfresh⟩
          · exact ⟨_, _, .badHeaderLine hhead hline hempty hfault hfault.code_eq⟩

/-- Every byte string is read in some way. -/
theorem exists_reads (bytes : Bytes) :
    ∃ result request, Reads bytes result request := by
  rcases line_or_not_mem bytes with hfree | ⟨line, rest, hline, -⟩
  · exact ⟨_, _, .noLine hfree⟩
  · rcases requestLine_or_fault line with ⟨method, route, version, hparts⟩ | ⟨fault, hfault⟩
    · exact exists_reads_of_head rest (.requestLine hline hparts)
    · exact ⟨_, _, .badRequestLine hline hfault hfault.code_eq⟩

/-- A new parser that is fed a byte string reports what the grammar says of it and
holds the parts that the grammar finds in it, and no other report and no other
parts are according to the grammar. -/
theorem reads_iff_report_request
    (bytes : Bytes) (result : Except RequestFault Progress) (request : Request) :
    Reads bytes result request ↔
      (Parser.new.feed bytes).report = result ∧
        (Parser.new.feed bytes).request = request := by
  rw [Parser.feed_eq_advance]
  constructor
  · exact Reads.advance
  · rintro ⟨rfl, rfl⟩
    obtain ⟨result, request, hreads⟩ := exists_reads bytes
    obtain ⟨hreport, hrequest⟩ := hreads.advance
    rwa [hreport, hrequest]

end Grammar
end HttpEngine
