import HttpEngine.Route.Registry

/-!
# The route table

A running server looks routes up in a table that never changes. The table has
at least two buckets for each route, a power of two in all, and keeps a route
in the bucket that the low bits of its hash select. The hash decides only where
to look; what is found is decided by comparing bytes.
-/

namespace HttpEngine

/-- Routes in buckets, and how many there are. -/
structure RouteTable where
  buckets : Array (List Route)
  size : Nat

namespace RouteTable

/-- How many buckets a number of routes gets. -/
def bucketCount (routes : Nat) : Nat :=
  (max (2 * routes) 1).nextPowerOfTwo

/-- The bucket of an endpoint. -/
def slot (count : Nat) (endpoint : Endpoint) : Nat :=
  endpoint.hashCode.toNat % count

/-- Puts a route at the end of its bucket. -/
def place (buckets : Array (List Route)) (route : Route) : Array (List Route) :=
  buckets.modify (slot buckets.size route.1) (· ++ [route])

/-- A table of routes, placed in the given order. -/
def ofRoutes (routes : List Route) : RouteTable :=
  { buckets := routes.foldl place (Array.replicate (bucketCount routes.length) [])
    size := routes.length }

/-- The handler of a method and a path. -/
def lookup (table : RouteTable) (method path : Bytes) : Option Handler :=
  let endpoint : Endpoint := { method := method, path := path }
  let bucket := table.buckets.getD (slot table.buckets.size endpoint) []
  (bucket.find? fun route => route.1 == endpoint).map Prod.snd

/-- The handler of a request. -/
def handlerOf (table : RouteTable) (request : Request) : Option Handler :=
  table.lookup request.method request.route

/-- Whether there are no routes. -/
def isEmpty (table : RouteTable) : Bool :=
  table.size == 0

/-- The endpoints, bucket by bucket. -/
def endpoints (table : RouteTable) : List Endpoint :=
  table.buckets.toList.flatMap fun bucket => bucket.map Prod.fst

/-- The endpoints as text. -/
def text (table : RouteTable) : String :=
  Text.members (table.endpoints.map Endpoint.text)

end RouteTable

/-- The table of the routes of a registry. -/
def Registry.freeze (registry : Registry) : RouteTable :=
  RouteTable.ofRoutes registry.routes.toList

end HttpEngine
