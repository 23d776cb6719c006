import HttpEngine.Decimal
import HttpEngine.Request
import HttpEngine.Request.Fault

/-!
# Reading a request as it arrives

The parser takes the bytes of one request in chunks, cut anywhere, and goes on
where the last chunk ended. It reads the request line, then header lines up to
an empty line, then as many body bytes as the headers announced:

* a line that the end of a chunk cuts off is carried over and joined with the
  next chunk;
* line breaks right after the header block are not part of the body;
* a fault is final: the parser stays failed whatever it is fed;
* bytes after the end of the request are ignored.

`feed` is the only operation that reads; `report` says how the reading stands.
-/

namespace HttpEngine

/-- Where the parser is within a request. -/
inductive Phase where
  /-- The request line has not ended. -/
  | requestLine
  /-- The empty line after the headers has not been seen. -/
  | headers
  /-- Announced body bytes are missing. -/
  | body
  /-- The request is complete. -/
  | finished
  /-- The request is malformed. -/
  | failed (fault : RequestFault)
deriving Repr, DecidableEq

/-- How the reading stands while no fault was found. -/
inductive Progress where
  /-- More bytes are needed. -/
  | more
  /-- The request is complete. -/
  | complete
deriving Repr, DecidableEq

/-- A parser in the middle of a request. -/
structure Parser where
  phase : Phase
  /-- The part of an unfinished line that earlier chunks brought. -/
  carry : Bytes
  /-- The body length that the headers announced, zero without such a header. -/
  contentLength : Nat
  /-- The parts read so far. -/
  request : Request

namespace Parser

/-- The header that announces the length of the body. -/
def contentLengthName : HeaderName :=
  ⟨Bytes.ofText "content-length"⟩

/-- A parser before the first byte, with room for some headers. -/
def withCapacity (capacity : Nat) : Parser :=
  { phase := .requestLine
    carry := []
    contentLength := 0
    request := Request.withHeaderCapacity capacity }

/-- A parser before the first byte. -/
def new : Parser := withCapacity 16

/-- A parser that has met a fault. -/
def fail (parser : Parser) (fault : RequestFault) : Parser :=
  { parser with phase := .failed fault }

/-- The three parts of a request line. -/
def splitRequestLine (line : Bytes) : Except RequestFault (Bytes × Bytes × Bytes) :=
  match line.cut? Bytes.space with
  | none => .error .missingSpaceAfterMethod
  | some (method, rest) =>
      match rest.cut? Bytes.space with
      | none => .error .missingSpaceAfterRoute
      | some (route, tail) =>
          let version := tail.trimEnd
          if method.isEmpty || route.isEmpty || version.isEmpty then
            .error .emptyRequestLinePart
          else
            .ok (method, route, version)

/-- The name and the value of a header line. -/
def splitHeader (line : Bytes) : Except RequestFault (HeaderName × Bytes) :=
  match line.cut? Bytes.colon with
  | none => .error .missingColon
  | some (name, rest) =>
      let value := rest.trim
      if name.isEmpty then .error .emptyHeaderName
      else if value.isEmpty then .error .emptyHeaderValue
      else .ok (⟨name⟩, value)

/-- Takes the request line. -/
def takeRequestLine (parser : Parser) (line : Bytes) : Parser :=
  match splitRequestLine line with
  | .error fault => parser.fail fault
  | .ok (method, route, version) =>
      { parser with
        phase := .headers
        request :=
          { parser.request with
            method := parser.request.method ++ method
            route := parser.request.route ++ route
            version := parser.request.version ++ version } }

/-- Takes a header line. The announced length is read after the header has been
added, so a header with an unusable length stays among the headers. -/
def takeHeader (parser : Parser) (line : Bytes) : Parser :=
  match splitHeader line with
  | .error fault => parser.fail fault
  | .ok (name, value) =>
      match parser.request.headers.insert? name value with
      | none => parser.fail .duplicateHeader
      | some headers =>
          let parser := { parser with request := { parser.request with headers := headers } }
          if name == contentLengthName then
            match Decimal.read? value with
            | none => parser.fail .invalidContentLength
            | some length => { parser with contentLength := length }
          else
            parser

/-- Takes the empty line after the headers. -/
def endHeaders (parser : Parser) : Parser :=
  if parser.contentLength = 0 then
    { parser with phase := .finished }
  else
    { parser with
      phase := .body
      request := { parser.request with body := some [] } }

/-- Takes one line, without its line end. -/
def takeLine (parser : Parser) (line : Bytes) : Parser :=
  match parser.phase with
  | .requestLine => parser.takeRequestLine line
  | _ => if line.isEmpty then parser.endHeaders else parser.takeHeader line

/-- Takes body bytes, as many as are still missing. -/
def takeBody (parser : Parser) (bytes : Bytes) : Parser :=
  let body := parser.request.body.getD []
  let bytes := if body.isEmpty then bytes.dropWhile Bytes.isLineBreak else bytes
  let length := body.length
  let taken := bytes.take (parser.contentLength - length)
  { parser with
    phase := if length + taken.length = parser.contentLength then .finished else .body
    request := { parser.request with body := some (body ++ taken) } }

/-- Reads a chunk from where the parser is. -/
def advance (parser : Parser) (chunk : Bytes) : Parser :=
  if chunk.isEmpty then parser
  else
    match parser.phase with
    | .requestLine | .headers =>
        match _ : chunk.cut? Bytes.lineFeed with
        | none => { parser with carry := parser.carry ++ chunk }
        | some (head, tail) =>
            let line := (parser.carry ++ head).dropReturn
            (({ parser with carry := [] } : Parser).takeLine line).advance tail
    | .body => parser.takeBody chunk
    | .finished | .failed _ => parser
termination_by chunk.length
decreasing_by exact Bytes.length_lt_of_cut?_eq_some ‹_›

/-- Feeds the next chunk of the request. -/
def feed (parser : Parser) (chunk : Bytes) : Parser :=
  match parser.phase with
  | .finished | .failed _ => parser
  | _ => parser.advance chunk

/-- How the reading stands. -/
def report (parser : Parser) : Except RequestFault Progress :=
  match parser.phase with
  | .failed fault => .error fault
  | .finished => .ok .complete
  | _ => .ok .more

/-- Moves the request out and leaves an empty one behind. -/
def takeRequest (parser : Parser) : Request × Parser :=
  (parser.request, { parser with request := Request.empty })

/-- Prepares the parser for an unrelated request. -/
def reset (parser : Parser) : Parser :=
  { parser with
    phase := .requestLine
    carry := []
    contentLength := 0
    request := parser.request.clear }

end Parser
end HttpEngine
