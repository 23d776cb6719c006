import HttpEngine.Handler
import HttpEngine.Route.Endpoint
import HttpEngine.Text.Record
import Std.Data.HashMap

/-!
# Registering routes

While a server is set up, handlers are registered for endpoints. The first
registration of an endpoint wins; a later one is noted and otherwise ignored.
A registry can be merged into another, whose routes then win.
-/

namespace HttpEngine

/-- A handler and the endpoint it is registered for. -/
abbrev Route := Endpoint × Handler

/-- Methods with a registration of their own. -/
inductive Verb where
  | get
  | post
  | put
  | patch
  | delete
deriving Repr, DecidableEq

/-- The method of a verb as it stands in a request line. -/
def Verb.bytes : Verb → Bytes
  | .get => Bytes.ofText "GET"
  | .post => Bytes.ofText "POST"
  | .put => Bytes.ofText "PUT"
  | .patch => Bytes.ofText "PATCH"
  | .delete => Bytes.ofText "DELETE"

/-- The route of a verb and a path, with an answer that does not depend on the
request. -/
def Verb.route
    (verb : Verb) (path : Bytes) (answer : Answer) :
    Route :=
  ({ method := verb.bytes, path := path }, .constant answer)

/-- The routes registered so far, and the endpoints of ignored registrations
in their order. -/
structure Registry where
  routes : Std.HashMap Endpoint Handler
  ignored : List Endpoint

namespace Registry

/-- No routes. -/
def empty : Registry :=
  { routes := {}, ignored := [] }

instance : Inhabited Registry := ⟨empty⟩

/-- Registers a handler unless its endpoint is taken. -/
def add (registry : Registry) (route : Route) : Registry :=
  if registry.routes.contains route.1 then
    { registry with ignored := registry.ignored ++ [route.1] }
  else
    { registry with routes := registry.routes.insert route.1 route.2 }

/-- Registers a handler for a method and a path. -/
def map
    (registry : Registry) (method path : Bytes) (handler : Handler) :
    Registry :=
  registry.add ({ method := method, path := path }, handler)

/-- Registers an answer that does not depend on the request. -/
def mapVerb
    (registry : Registry) (verb : Verb) (path : Bytes) (answer : Answer) :
    Registry :=
  registry.add (verb.route path answer)

/-- Registers handlers one after the other. -/
def addAll (registry : Registry) (routes : List Route) : Registry :=
  routes.foldl add registry

/-- Merges another registry into this one, taking its routes in a given
order. -/
def mergeInOrder
    (registry other : Registry) (order : List Route) :
    Registry :=
  { registry with ignored := registry.ignored ++ other.ignored }.addAll order

/-- Merges another registry into this one. -/
def merge (registry other : Registry) : Registry :=
  registry.mergeInOrder other other.routes.toList

/-- How many endpoints have a handler. -/
def size (registry : Registry) : Nat :=
  registry.routes.size

/-- Whether no endpoint has one. -/
def isEmpty (registry : Registry) : Bool :=
  registry.routes.isEmpty

/-- The endpoints that have a handler. -/
def endpoints (registry : Registry) : List Endpoint :=
  registry.routes.keys

/-- The endpoints as text. -/
def text (registry : Registry) : String :=
  Text.members (registry.endpoints.map Endpoint.text)

end Registry
end HttpEngine
