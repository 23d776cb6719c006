import HttpEngine.Header.Map

/-!
# Requests

A request is what a client asked for: the method, the route and the version of
the request line, the headers, and the body when one was announced. The parts
are byte strings; a part that is valid UTF-8 can also be read as text.
-/

namespace HttpEngine

/-- The parts of one request. -/
structure Request where
  method : Bytes
  route : Bytes
  version : Bytes
  headers : HeaderMap
  body : Option Bytes

namespace Request

/-- A request without any part yet, with room for some headers. -/
def withHeaderCapacity (capacity : Nat) : Request :=
  { method := []
    route := []
    version := []
    headers := HeaderMap.withCapacity capacity
    body := none }

/-- A request without any part. -/
def empty : Request := withHeaderCapacity 0

instance : Inhabited Request := ⟨empty⟩

/-- Removes every part; the room for headers stays. -/
def clear (request : Request) : Request :=
  { method := []
    route := []
    version := []
    headers := request.headers.clear
    body := none }

/-- The method as text. -/
def methodText? (request : Request) : Option String :=
  Utf8.read? request.method

/-- The route as text. -/
def routeText? (request : Request) : Option String :=
  Utf8.read? request.route

/-- The body as text. -/
def bodyText? (request : Request) : Option String :=
  request.body.bind Utf8.read?

/-- The value of a header. -/
def header? (request : Request) (name : Bytes) : Option Bytes :=
  request.headers.get? ⟨name⟩

/-- The value of a header as text. -/
def headerText? (request : Request) (name : Bytes) : Option String :=
  (request.header? name).bind Utf8.read?

/-- Equality of requests, part by part. -/
def same (a b : Request) : Bool :=
  a.method == b.method && a.route == b.route && a.version == b.version &&
    a.headers == b.headers && a.body == b.body

instance : BEq Request := ⟨same⟩

end Request
end HttpEngine
