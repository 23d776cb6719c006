import HttpEngine.Proofs.Bytes.Positions
import HttpEngine.Proofs.Request.Chunking

/-!
# Reading requests by positions

The parser once more, as a loop that works on positions: a turn looks for the end of a
line or counts the missing body bytes, reads the parts between the positions that it
found, and goes on with the bytes that are left. A turn in which a position is out of
range, or a difference is less than zero, comes to nothing.

`Ends` says that the loop is left after finitely many turns, none of which came to
nothing. Lines can be taken apart in every state. The body bytes that are missing can
be counted only where the body is no longer than was announced; a turn then completes
the body or uses up its bytes.
-/

namespace HttpEngine

namespace Decimal

/-- Takes one more digit into a number. The number may be refused, and the value of the
digit may not be there. -/
def pushAt? (value : Nat) (b : UInt8) : Option (Option Nat) :=
  if isDigit b then
    (difference? b.toNat 48).map fun added => do
      let shifted ← inWord? (value * 10)
      inWord? (shifted + added)
  else
    some none

/-- Takes digits into a number, one after the other, until it is refused. -/
def pushAllAt? (value : Nat) : Bytes → Option (Option Nat)
  | [] => some (some value)
  | b :: rest =>
      match pushAt? value b with
      | none => none
      | some none => some none
      | some (some value) => pushAllAt? value rest

/-- The number that a string of digits stands for. -/
def readAt? : Bytes → Option (Option Nat)
  | [] => some none
  | b :: rest => pushAllAt? 0 (b :: rest)

theorem pushAt?_eq (value : Nat) (b : UInt8) : pushAt? value b = some (push? value b) := by
  unfold pushAt? push?
  split
  · next hdigit =>
      have hle : 48 ≤ b.toNat := by
        rw [isDigit, Bool.and_eq_true, decide_eq_true_eq, UInt8.le_iff_toNat_le] at hdigit
        exact hdigit.1
      rw [difference?_of_le hle, Option.map_some]
      rfl
  · rfl

theorem pushAllAt?_eq (value : Nat) (bytes : Bytes) :
    pushAllAt? value bytes = some (bytes.foldlM push? value) := by
  induction bytes generalizing value with
  | nil => rfl
  | cons b rest ih =>
      rw [pushAllAt?, pushAt?_eq, List.foldlM_cons]
      cases push? value b with
      | none => rfl
      | some next => exact ih next

/-- Numbers are read in range. -/
theorem readAt?_eq (bytes : Bytes) : readAt? bytes = some (read? bytes) := by
  cases bytes with
  | nil => rfl
  | cons b rest => exact pushAllAt?_eq 0 (b :: rest)

end Decimal

namespace Parser

/-! ## Taking lines apart -/

/-- The three parts of a request line. -/
def splitRequestLineAt? (line : Bytes) : Option (Except RequestFault (Bytes × Bytes × Bytes)) :=
  match line.idxOf? Bytes.space with
  | none => some (.error .missingSpaceAfterMethod)
  | some first => do
      let rest ← line.slice? (first + 1) line.length
      match rest.idxOf? Bytes.space with
      | none => some (.error .missingSpaceAfterRoute)
      | some position => do
          let second := first + 1 + position
          let method ← line.slice? 0 first
          let route ← line.slice? (first + 1) second
          let tail ← line.slice? (second + 1) line.length
          let version ← tail.trimEndAt?
          if method.isEmpty || route.isEmpty || version.isEmpty then
            some (.error .emptyRequestLinePart)
          else
            some (.ok (method, route, version))

/-- The name and the value of a header line. -/
def splitHeaderAt? (line : Bytes) : Option (Except RequestFault (HeaderName × Bytes)) :=
  match line.idxOf? Bytes.colon with
  | none => some (.error .missingColon)
  | some position => do
      let name ← line.slice? 0 position
      let rest ← line.slice? (position + 1) line.length
      let value ← rest.trimAt?
      if name.isEmpty then some (.error .emptyHeaderName)
      else if value.isEmpty then some (.error .emptyHeaderValue)
      else some (.ok (⟨name⟩, value))

/-- Request lines are taken apart in range. -/
theorem splitRequestLineAt?_eq (line : Bytes) :
    splitRequestLineAt? line = some (splitRequestLine line) := by
  unfold splitRequestLineAt? splitRequestLine
  cases hfirst : line.cut? Bytes.space with
  | none => rw [Bytes.idxOf?_of_not_mem (Bytes.cut?_eq_none_iff.mp hfirst)]
  | some parts =>
      obtain ⟨method, rest⟩ := parts
      obtain ⟨rfl, hmethod⟩ := Bytes.cut?_eq_some_iff.mp hfirst
      simp only [Bytes.idxOf?_append_cons rest hmethod, Bytes.slice?_after, Option.bind_eq_bind,
        Option.bind_some]
      cases hsecond : rest.cut? Bytes.space with
      | none => rw [Bytes.idxOf?_of_not_mem (Bytes.cut?_eq_none_iff.mp hsecond)]
      | some parts =>
          obtain ⟨route, tail⟩ := parts
          obtain ⟨rfl, hroute⟩ := Bytes.cut?_eq_some_iff.mp hsecond
          have hbefore := Bytes.slice?_head method (Bytes.space :: (route ++ Bytes.space :: tail))
          have hmiddle :
              (method ++ Bytes.space :: (route ++ Bytes.space :: tail)).slice?
                  (method.length + 1) (method.length + 1 + route.length) =
                some route := by
            have hlength : method.length + 1 = (method ++ [Bytes.space]).length := by simp
            have hpart :=
              Bytes.slice?_append (method ++ [Bytes.space]) route (Bytes.space :: tail) hlength rfl
            rwa [← hlength, List.append_assoc, List.singleton_append] at hpart
          have hafter :
              (method ++ Bytes.space :: (route ++ Bytes.space :: tail)).slice?
                  (method.length + 1 + route.length + 1)
                  (method ++ Bytes.space :: (route ++ Bytes.space :: tail)).length =
                some tail := by
            have hpart := Bytes.slice?_after (method ++ Bytes.space :: route) Bytes.space tail
            rw [List.append_assoc, List.cons_append] at hpart
            rwa [List.length_append, List.length_cons, Nat.add_comm route.length,
              ← Nat.add_assoc] at hpart
          simp only [Bytes.idxOf?_append_cons tail hroute, hbefore, hmiddle, hafter,
            Bytes.trimEndAt?_eq, Option.bind_some]
          split <;> rfl

/-- Header lines are taken apart in range. -/
theorem splitHeaderAt?_eq (line : Bytes) : splitHeaderAt? line = some (splitHeader line) := by
  unfold splitHeaderAt? splitHeader
  cases hcut : line.cut? Bytes.colon with
  | none => rw [Bytes.idxOf?_of_not_mem (Bytes.cut?_eq_none_iff.mp hcut)]
  | some parts =>
      obtain ⟨name, rest⟩ := parts
      obtain ⟨rfl, hname⟩ := Bytes.cut?_eq_some_iff.mp hcut
      simp only [Bytes.idxOf?_append_cons rest hname, Bytes.slice?_head, Bytes.slice?_after,
        Bytes.trimAt?_eq, Option.bind_eq_bind, Option.bind_some]
      split
      · rfl
      · split <;> rfl

/-! ## Turns of the loop -/

/-- Takes the request line. -/
def takeRequestLineAt? (parser : Parser) (line : Bytes) : Option Parser := do
  match ← splitRequestLineAt? line with
  | .error fault => some (parser.fail fault)
  | .ok (method, route, version) =>
      some
        { parser with
          phase := .headers
          request :=
            { parser.request with
              method := parser.request.method ++ method
              route := parser.request.route ++ route
              version := parser.request.version ++ version } }

/-- Takes a header line. -/
def takeHeaderAt? (parser : Parser) (line : Bytes) : Option Parser := do
  match ← splitHeaderAt? line with
  | .error fault => some (parser.fail fault)
  | .ok (name, value) =>
      match parser.request.headers.insert? name value with
      | none => some (parser.fail .duplicateHeader)
      | some headers =>
          let parser := { parser with request := { parser.request with headers := headers } }
          if name == contentLengthName then
            match ← Decimal.readAt? value with
            | none => some (parser.fail .invalidContentLength)
            | some length => some { parser with contentLength := length }
          else
            some parser

/-- Takes one line, without its line end. -/
def takeLineAt? (parser : Parser) (line : Bytes) : Option Parser :=
  match parser.phase with
  | .requestLine => parser.takeRequestLineAt? line
  | _ => if line.isEmpty then some parser.endHeaders else parser.takeHeaderAt? line

/-- The body bytes among some bytes that follow what has been read of the body. -/
def bodyPartAt? (body bytes : Bytes) : Option Bytes :=
  if body.isEmpty then bytes.skipAt? Bytes.isLineBreak else some bytes

/-- Takes body bytes, as many as are still missing, and leaves the others. -/
def takeBodyAt? (parser : Parser) (bytes : Bytes) : Option (Parser × Bytes) := do
  let body := parser.request.body.getD []
  let bytes ← bodyPartAt? body bytes
  let missing ← difference? parser.contentLength body.length
  let count := min missing bytes.length
  let taken ← bytes.slice? 0 count
  let rest ← bytes.slice? count bytes.length
  let grown := body ++ taken
  some
    ({ parser with
        phase := if grown.length = parser.contentLength then .finished else parser.phase
        request := { parser.request with body := some grown } },
      rest)

/-- One turn of the loop: the parser after it, and the bytes that are left if the loop
goes on. -/
def turn? (parser : Parser) (bytes : Bytes) : Option (Parser × Option Bytes) :=
  match parser.phase with
  | .requestLine | .headers =>
      match bytes.idxOf? Bytes.lineFeed with
      | none => some ({ parser with carry := parser.carry ++ bytes }, none)
      | some position => do
          let head ← bytes.slice? 0 position
          let tail ← bytes.slice? (position + 1) bytes.length
          let line := (parser.carry ++ head).dropReturn
          let parser ← ({ parser with carry := [] } : Parser).takeLineAt? line
          match parser.phase with
          | .failed _ => some (parser, none)
          | _ => some (parser, some tail)
  | .body => do
      let (parser, rest) ← parser.takeBodyAt? bytes
      some (parser, some rest)
  | .finished | .failed _ => some (parser, none)

/-- The loop is left after finitely many turns, all of them in range. -/
inductive Ends : Parser → Bytes → Parser → Prop
  | empty (parser : Parser) : Ends parser [] parser
  | leaves {parser result : Parser} {bytes : Bytes}
      (hbytes : bytes ≠ [])
      (hturn : parser.turn? bytes = some (result, none)) :
      Ends parser bytes result
  | goesOn {parser next result : Parser} {bytes rest : Bytes}
      (hbytes : bytes ≠ [])
      (hturn : parser.turn? bytes = some (next, some rest))
      (hends : Ends next rest result) :
      Ends parser bytes result

theorem takeRequestLineAt?_eq (parser : Parser) (line : Bytes) :
    parser.takeRequestLineAt? line = some (parser.takeRequestLine line) := by
  unfold takeRequestLineAt? takeRequestLine
  rw [splitRequestLineAt?_eq, Option.bind_eq_bind, Option.bind_some]
  cases splitRequestLine line <;> rfl

theorem takeHeaderAt?_eq (parser : Parser) (line : Bytes) :
    parser.takeHeaderAt? line = some (parser.takeHeader line) := by
  unfold takeHeaderAt? takeHeader
  rw [splitHeaderAt?_eq, Option.bind_eq_bind, Option.bind_some]
  rcases splitHeader line with fault | ⟨name, value⟩
  · rfl
  · simp only [Decimal.readAt?_eq]
    cases parser.request.headers.insert? name value with
    | none => rfl
    | some headers =>
        simp only
        split
        · cases Decimal.read? value <;> rfl
        · rfl

theorem bodyPartAt?_eq (body bytes : Bytes) :
    bodyPartAt? body bytes = some (bodyPart body bytes) := by
  rw [bodyPartAt?, bodyPart, Bytes.skipAt?_eq]
  split <;> rfl

/-- Lines are taken in range, in every state. -/
theorem takeLineAt?_eq (parser : Parser) (line : Bytes) :
    parser.takeLineAt? line = some (parser.takeLine line) := by
  have hline :
      (if line.isEmpty then some parser.endHeaders else parser.takeHeaderAt? line) =
        some (if line.isEmpty then parser.endHeaders else parser.takeHeader line) := by
    rw [takeHeaderAt?_eq]
    split <;> rfl
  rw [takeLineAt?, takeLine, takeRequestLineAt?_eq, hline]
  cases parser.phase <;> rfl

/-- Body bytes are taken in range while the body is no longer than was announced. What
is left then is nothing, or the body is complete. -/
theorem takeBodyAt?_of_le
    {parser : Parser} (bytes : Bytes)
    (hphase : parser.phase = .body)
    (hle : (parser.request.body.getD []).length ≤ parser.contentLength) :
    ∃ rest, parser.takeBodyAt? bytes = some (parser.takeBody bytes, rest) ∧
      (rest = [] ∨ (parser.takeBody bytes).phase = .finished) := by
  have hcount :
      ∀ part : Bytes,
        min (parser.contentLength - (parser.request.body.getD []).length) part.length ≤
          part.length :=
    fun part => Nat.min_le_right _ _
  simp only [takeBodyAt?, bodyPartAt?_eq, difference?_of_le hle, Bytes.slice?_take (hcount _),
    Bytes.slice?_drop (hcount _), ← List.take_eq_take_min, Option.bind_eq_bind, Option.bind_some]
  rw [takeBody_eq, grownBody, hphase]
  refine ⟨_, rfl, ?_⟩
  generalize bodyPart (parser.request.body.getD []) bytes = part
  rcases Nat.le_total (parser.contentLength - (parser.request.body.getD []).length) part.length
    with henough | hless
  · refine Or.inr (if_pos ?_)
    rw [List.length_append, List.length_take_of_le henough, Nat.add_sub_cancel' hle]
  · rw [Nat.min_eq_right hless]
    exact Or.inl (List.drop_length)

section Turns

variable {parser : Parser}
variable {bytes head tail : Bytes}

theorem turn?_of_cut?_eq_none
    (hline : parser.ExpectsLine) (hcut : bytes.cut? Bytes.lineFeed = none) :
    parser.turn? bytes = some ({ parser with carry := parser.carry ++ bytes }, none) := by
  have hnone := Bytes.idxOf?_of_not_mem (Bytes.cut?_eq_none_iff.mp hcut)
  rcases hline with hphase | hphase <;> simp only [turn?, hphase, hnone]

/-- A line that is at fault ends the loop. -/
theorem turn?_of_cut?_eq_some
    {next : Parser}
    (hline : parser.ExpectsLine) (hcut : bytes.cut? Bytes.lineFeed = some (head, tail))
    (hnext :
      ({ parser with carry := [] } : Parser).takeLine (parser.carry ++ head).dropReturn = next) :
    parser.turn? bytes = some (next, some tail) ∨
      parser.turn? bytes = some (next, none) ∧ ∃ fault, next.phase = .failed fault := by
  obtain ⟨rfl, hfree⟩ := Bytes.cut?_eq_some_iff.mp hcut
  have hturn :
      parser.turn? (head ++ Bytes.lineFeed :: tail) =
        match next.phase with
        | .failed _ => some (next, none)
        | _ => some (next, some tail) := by
    rw [← hnext]
    rcases hline with hphase | hphase <;>
      simp only [turn?, hphase, Bytes.idxOf?_append_cons tail hfree, Bytes.slice?_head,
        Bytes.slice?_after, takeLineAt?_eq, Option.bind_eq_bind, Option.bind_some]
  rw [hturn]
  cases next.phase with
  | failed fault => exact Or.inr ⟨rfl, fault, rfl⟩
  | requestLine => exact Or.inl rfl
  | headers => exact Or.inl rfl
  | body => exact Or.inl rfl
  | finished => exact Or.inl rfl

theorem turn?_of_body
    (hphase : parser.phase = .body)
    (hle : (parser.request.body.getD []).length ≤ parser.contentLength) (bytes : Bytes) :
    ∃ rest, parser.turn? bytes = some (parser.takeBody bytes, some rest) ∧
      (rest = [] ∨ (parser.takeBody bytes).phase = .finished) := by
  obtain ⟨rest, htake, hrest⟩ := takeBodyAt?_of_le bytes hphase hle
  refine ⟨rest, ?_, hrest⟩
  simp only [turn?, hphase, htake, Option.bind_eq_bind, Option.bind_some]

/-- The loop does not get through a body that is longer than was announced. -/
theorem turn?_of_long_body
    (hphase : parser.phase = .body)
    (hlong : parser.contentLength < (parser.request.body.getD []).length) (bytes : Bytes) :
    parser.turn? bytes = none := by
  have hnone : difference? parser.contentLength (parser.request.body.getD []).length = none :=
    if_neg (Nat.not_le.mpr hlong)
  simp only [turn?, hphase, takeBodyAt?, bodyPartAt?_eq, hnone, Option.bind_eq_bind,
    Option.bind_some, Option.bind_none]

theorem ends_of_finished (hphase : parser.phase = .finished) (bytes : Bytes) :
    Ends parser bytes parser := by
  cases bytes with
  | nil => exact .empty parser
  | cons b bytes =>
      refine .leaves (List.cons_ne_nil b bytes) ?_
      simp only [turn?, hphase]

theorem ends_of_failed
    {fault : RequestFault} (hphase : parser.phase = .failed fault) (bytes : Bytes) :
    Ends parser bytes parser := by
  cases bytes with
  | nil => exact .empty parser
  | cons b bytes =>
      refine .leaves (List.cons_ne_nil b bytes) ?_
      simp only [turn?, hphase]

/-- The loop is left with one parser. -/
theorem Ends.unique
    {result other : Parser} (h : Ends parser bytes result) (hother : Ends parser bytes other) :
    result = other := by
  induction h with
  | empty parser =>
      cases hother with
      | empty => rfl
      | leaves hbytes => exact absurd rfl hbytes
      | goesOn hbytes => exact absurd rfl hbytes
  | leaves hbytes hturn =>
      cases hother with
      | empty => exact absurd rfl hbytes
      | leaves _ hsame =>
          rw [hturn] at hsame
          exact congrArg Prod.fst (Option.some.inj hsame)
      | goesOn _ hsame =>
          rw [hturn] at hsame
          cases hsame
  | goesOn hbytes hturn _ ih =>
      cases hother with
      | empty => exact absurd rfl hbytes
      | leaves _ hsame =>
          rw [hturn] at hsame
          cases hsame
      | goesOn _ hsame hends =>
          rw [hturn] at hsame
          cases hsame
          exact ih hends

end Turns

end Parser
end HttpEngine
