/-!
# What is wrong with a malformed request

Each cause has a stable number that programs may rely on and a description for
people. Causes of one kind share the number.
-/

namespace HttpEngine

/-- The kinds of faults, each with its stable number. -/
inductive FaultCode where
  | unknown
  | requestLineSyntax
  | headerSyntax
  | duplicateHeader
  | invalidHeaderValue
deriving Repr, DecidableEq

namespace FaultCode

/-- All kinds, in the order of their numbers. -/
def all : List FaultCode :=
  [.unknown, .requestLineSyntax, .headerSyntax, .duplicateHeader, .invalidHeaderValue]

/-- The stable number of a kind. -/
def number : FaultCode → Nat
  | .unknown => 0
  | .requestLineSyntax => 1
  | .headerSyntax => 2
  | .duplicateHeader => 3
  | .invalidHeaderValue => 4

/-- The name of a kind. -/
def label : FaultCode → String
  | .unknown => "Unknown"
  | .requestLineSyntax => "RequestLineSyntax"
  | .headerSyntax => "HeaderSyntax"
  | .duplicateHeader => "DuplicateHeader"
  | .invalidHeaderValue => "InvalidHeaderValue"

/-- The number as text. -/
def text (code : FaultCode) : String :=
  toString code.number

end FaultCode

/-- Why a request is refused. -/
inductive RequestFault where
  /-- The request line has no space. -/
  | missingSpaceAfterMethod
  /-- The request line has only one space. -/
  | missingSpaceAfterRoute
  /-- The method, the route or the version is empty. -/
  | emptyRequestLinePart
  /-- A header line has no colon. -/
  | missingColon
  /-- A header line has nothing before its colon. -/
  | emptyHeaderName
  /-- A header line has only blanks after its colon. -/
  | emptyHeaderValue
  /-- A header has the name of an earlier one. -/
  | duplicateHeader
  /-- The announced length is not a decimal number of one word. -/
  | invalidContentLength
deriving Repr, DecidableEq

namespace RequestFault

/-- The kind of a fault. -/
def code : RequestFault → FaultCode
  | .missingSpaceAfterMethod => .requestLineSyntax
  | .missingSpaceAfterRoute => .requestLineSyntax
  | .emptyRequestLinePart => .requestLineSyntax
  | .missingColon => .headerSyntax
  | .emptyHeaderName => .headerSyntax
  | .emptyHeaderValue => .headerSyntax
  | .duplicateHeader => .duplicateHeader
  | .invalidContentLength => .invalidHeaderValue

/-- The description of a fault. -/
def message : RequestFault → String
  | .missingSpaceAfterMethod => "missing space after method"
  | .missingSpaceAfterRoute => "missing space after route"
  | .emptyRequestLinePart => "empty request line component"
  | .missingColon => "missing colon"
  | .emptyHeaderName => "empty header name"
  | .emptyHeaderValue => "empty header value"
  | .duplicateHeader => "header already present"
  | .invalidContentLength => "content-length is not a decimal integer"

/-- The fault as one line of text. -/
def text (fault : RequestFault) : String :=
  "parse error " ++ fault.code.text ++ ": " ++ fault.message

end RequestFault
end HttpEngine
