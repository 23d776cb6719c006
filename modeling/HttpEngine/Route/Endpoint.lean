import HttpEngine.Text.Utf8

/-!
# Endpoints

A request is routed by its method and its path, byte for byte. The hash of an
endpoint takes in the length of the method, the bytes of the method, the length
of the path and the bytes of the path, each by an exclusive or followed by a
multiplication modulo `2 ^ 64`.
-/

namespace HttpEngine

/-- A method and a path. -/
structure Endpoint where
  method : Bytes
  path : Bytes
deriving Repr, DecidableEq

namespace Endpoint

/-- The hash of nothing. -/
def hashSeed : UInt64 := 0xcbf29ce484222325

/-- The factor of every step of the hash. -/
def hashPrime : UInt64 := 0x100000001b3

/-- Takes one word into a running hash. -/
def mix (state word : UInt64) : UInt64 :=
  (state ^^^ word) * hashPrime

/-- Takes the length of a byte string and then its bytes into a running
hash. -/
def mixBytes (state : UInt64) (bytes : Bytes) : UInt64 :=
  bytes.foldl (fun state b => mix state b.toUInt64) (mix state (UInt64.ofNat bytes.length))

/-- The hash of an endpoint. -/
def hashCode (endpoint : Endpoint) : UInt64 :=
  mixBytes (mixBytes hashSeed endpoint.method) endpoint.path

instance : Hashable Endpoint := ⟨hashCode⟩

/-- The method and the path as text. -/
def text (endpoint : Endpoint) : String :=
  Utf8.readLossy endpoint.method ++ " " ++ Utf8.readLossy endpoint.path

end Endpoint
end HttpEngine
