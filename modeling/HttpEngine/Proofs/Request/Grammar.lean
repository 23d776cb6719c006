import HttpEngine.Proofs.Bytes.Trim
import HttpEngine.Proofs.Decimal.Reading
import HttpEngine.Proofs.Header.Index
import HttpEngine.Request.Parser

/-!
# The language of requests

What a byte string says as a request, without any parser:

* the bytes before each line feed, less one carriage return, are a line;
* the first line is method, route and version, with a space after the method and
  a space after the route;
* each line after it, up to the first empty one, is a name, a colon and a value
  among blanks; names are new in any spelling, and the value under the name
  `content-length` is a number of one word;
* after the empty line, as many bytes as that number says are the body, where line
  breaks in front of the body do not count.

The first line that does not fit decides the fault. `Reads bytes result request`
says what is to be reported of `bytes` and which parts of a request they hold.
-/

namespace HttpEngine
namespace Grammar

/-- The bytes begin with a line; the rest follows the line feed. -/
def Line (bytes line rest : Bytes) : Prop :=
  ∃ raw, bytes = raw ++ Bytes.lineFeed :: rest ∧ Bytes.lineFeed ∉ raw ∧ Bytes.LineOf raw line

/-! ## Request lines -/

/-- A request line and its parts. Blanks at the end belong to no part; other
blanks in the third part belong to it. -/
structure RequestLine (line method route version : Bytes) : Prop where
  parts :
    ∃ blanks,
      line = method ++ Bytes.space :: (route ++ Bytes.space :: (version ++ blanks)) ∧
        Bytes.Blank blanks
  method_free : Bytes.space ∉ method
  route_free : Bytes.space ∉ route
  method_ne : method ≠ []
  route_ne : route ≠ []
  version_ne : version ≠ []
  version_end : Bytes.EndsClean version

/-- What is wrong with a line that is no request line. -/
inductive RequestLineFault : Bytes → RequestFault → Prop
  | noSpace {line : Bytes}
      (hfree : Bytes.space ∉ line) :
      RequestLineFault line .missingSpaceAfterMethod
  | oneSpace {method rest : Bytes}
      (hmethod : Bytes.space ∉ method)
      (hrest : Bytes.space ∉ rest) :
      RequestLineFault (method ++ Bytes.space :: rest) .missingSpaceAfterRoute
  | emptyPart {method route tail : Bytes}
      (hmethod : Bytes.space ∉ method)
      (hroute : Bytes.space ∉ route)
      (hempty : method = [] ∨ route = [] ∨ Bytes.Blank tail) :
      RequestLineFault (method ++ Bytes.space :: (route ++ Bytes.space :: tail))
        .emptyRequestLinePart

/-! ## Header lines -/

/-- A header line and its header. -/
structure HeaderLine (line : Bytes) (header : Header) : Prop where
  parts :
    ∃ before after,
      line = header.name.bytes ++ Bytes.colon :: (before ++ header.value ++ after) ∧
        Bytes.Blank before ∧ Bytes.Blank after
  name_free : Bytes.colon ∉ header.name.bytes
  name_ne : header.name.bytes ≠ []
  value_ne : header.value ≠ []
  value_start : Bytes.StartsClean header.value
  value_end : Bytes.EndsClean header.value

/-- What is wrong with a line that is no header line. -/
inductive HeaderLineFault : Bytes → RequestFault → Prop
  | noColon {line : Bytes}
      (hfree : Bytes.colon ∉ line) :
      HeaderLineFault line .missingColon
  | emptyName (tail : Bytes) :
      HeaderLineFault (Bytes.colon :: tail) .emptyHeaderName
  | emptyValue {name tail : Bytes}
      (hname : Bytes.colon ∉ name)
      (hne : name ≠ [])
      (hblank : Bytes.Blank tail) :
      HeaderLineFault (name ++ Bytes.colon :: tail) .emptyHeaderValue

/-- The header announces the length of the body. -/
def Announces (header : Header) : Bool :=
  header.name == Parser.contentLengthName

/-! ## Requests -/

/-- The bytes begin with a request line and any number of header lines, each
of which fits after those before it. The announced length is zero until a header
announces one. -/
inductive Head (bytes method route version : Bytes) : List Header → Nat → Bytes → Prop
  | requestLine {line rest : Bytes}
      (hline : Line bytes line rest)
      (hparts : RequestLine line method route version) :
      Head bytes method route version [] 0 rest
  | header {headers : List Header} {length : Nat} {middle line rest : Bytes} {header : Header}
      (hhead : Head bytes method route version headers length middle)
      (hline : Line middle line rest)
      (hheader : HeaderLine line header)
      (hfresh : Fresh headers header.name)
      (hother : Announces header = false) :
      Head bytes method route version (headers ++ [header]) length rest
  | contentLength {headers : List Header} {length announced : Nat} {middle line rest : Bytes}
      {header : Header}
      (hhead : Head bytes method route version headers length middle)
      (hline : Line middle line rest)
      (hheader : HeaderLine line header)
      (hfresh : Fresh headers header.name)
      (hannounces : Announces header = true)
      (hword : Decimal.IsWord header.value announced) :
      Head bytes method route version (headers ++ [header]) announced rest

/-- A byte string made of line breaks. -/
def LineBreaks (bytes : Bytes) : Prop :=
  ∀ b ∈ bytes, Bytes.isLineBreak b = true

/-- The first byte, if there is one, is no line break. -/
def StartsBody (bytes : Bytes) : Prop :=
  ∀ b, bytes.head? = some b → Bytes.isLineBreak b = false

/-- What is to be reported of a byte string, and the parts of a request that it
holds. -/
inductive Reads (bytes : Bytes) : Except RequestFault Progress → Request → Prop
  | noLine
      (hfree : Bytes.lineFeed ∉ bytes) :
      Reads bytes (.ok .more) ⟨[], [], [], .ofHeaders [], none⟩
  | badRequestLine {line rest : Bytes} {fault : RequestFault}
      (hline : Line bytes line rest)
      (hfault : RequestLineFault line fault)
      (hcode : fault.code = .requestLineSyntax) :
      Reads bytes (.error fault) ⟨[], [], [], .ofHeaders [], none⟩
  | unfinishedHead {method route version rest : Bytes} {headers : List Header} {length : Nat}
      (hhead : Head bytes method route version headers length rest)
      (hfree : Bytes.lineFeed ∉ rest) :
      Reads bytes (.ok .more) ⟨method, route, version, .ofHeaders headers, none⟩
  | badHeaderLine {method route version middle line rest : Bytes} {headers : List Header}
      {length : Nat} {fault : RequestFault}
      (hhead : Head bytes method route version headers length middle)
      (hline : Line middle line rest)
      (hne : line ≠ [])
      (hfault : HeaderLineFault line fault)
      (hcode : fault.code = .headerSyntax) :
      Reads bytes (.error fault) ⟨method, route, version, .ofHeaders headers, none⟩
  | duplicateHeader {method route version middle line rest : Bytes} {headers : List Header}
      {length : Nat} {header : Header}
      (hhead : Head bytes method route version headers length middle)
      (hline : Line middle line rest)
      (hheader : HeaderLine line header)
      (htaken : ¬ Fresh headers header.name) :
      Reads bytes (.error .duplicateHeader) ⟨method, route, version, .ofHeaders headers, none⟩
  | invalidLength {method route version middle line rest : Bytes} {headers : List Header}
      {length : Nat} {header : Header}
      (hhead : Head bytes method route version headers length middle)
      (hline : Line middle line rest)
      (hheader : HeaderLine line header)
      (hfresh : Fresh headers header.name)
      (hannounces : Announces header = true)
      (hword : ∀ n, ¬ Decimal.IsWord header.value n) :
      Reads bytes (.error .invalidContentLength)
        ⟨method, route, version, .ofHeaders (headers ++ [header]), none⟩
  | withoutBody {method route version middle rest : Bytes} {headers : List Header}
      (hhead : Head bytes method route version headers 0 middle)
      (hline : Line middle [] rest) :
      Reads bytes (.ok .complete) ⟨method, route, version, .ofHeaders headers, none⟩
  | unfinishedBody {method route version middle breaks body : Bytes} {headers : List Header}
      {length : Nat}
      (hhead : Head bytes method route version headers length middle)
      (hline : Line middle [] (breaks ++ body))
      (hbreaks : LineBreaks breaks)
      (hstart : StartsBody body)
      (hless : body.length < length) :
      Reads bytes (.ok .more) ⟨method, route, version, .ofHeaders headers, some body⟩
  | withBody {method route version middle breaks body rest : Bytes} {headers : List Header}
      {length : Nat}
      (hhead : Head bytes method route version headers length middle)
      (hline : Line middle [] (breaks ++ (body ++ rest)))
      (hbreaks : LineBreaks breaks)
      (hstart : StartsBody body)
      (hpos : 0 < length)
      (hlength : body.length = length) :
      Reads bytes (.ok .complete) ⟨method, route, version, .ofHeaders headers, some body⟩

end Grammar
end HttpEngine
