import HttpEngine.Header.Name
import Std.Data.ExtHashMap

/-!
# Headers of a request

Headers are kept in order of arrival, beside an index that finds the position
of a header from its name in any spelling. A name occurs at most once: a second
header of the same name is refused and changes nothing.

Two header maps are equal when both parts are: the headers one by one, names up
to the case of their letters, and the indexes as finite maps.
-/

namespace HttpEngine

/-- One header. -/
structure Header where
  name : HeaderName
  value : Bytes
deriving Repr

instance : BEq Header :=
  ⟨fun a b => a.name == b.name && a.value == b.value⟩

/-- Headers in order of arrival and where to find them. -/
structure HeaderMap where
  headers : List Header
  index : Std.ExtHashMap HeaderName Nat

namespace HeaderMap

/-- No headers, with room for some. -/
def withCapacity (capacity : Nat) : HeaderMap :=
  { headers := [], index := Std.ExtHashMap.emptyWithCapacity capacity }

/-- No headers. -/
def empty : HeaderMap := withCapacity 0

instance : Inhabited HeaderMap := ⟨empty⟩

/-- Adds a header at the end, unless its name is taken. -/
def insert?
    (map : HeaderMap) (name : HeaderName) (value : Bytes) :
    Option HeaderMap :=
  if map.index.contains name then none
  else
    some
      { headers := map.headers ++ [{ name := name, value := value }]
        index := map.index.insert name map.headers.length }

/-- Removes all headers; the room that they took stays. -/
def clear (map : HeaderMap) : HeaderMap :=
  withCapacity map.headers.length

/-- The value of the header of that name. -/
def get? (map : HeaderMap) (name : HeaderName) : Option Bytes := do
  let position ← map.index[name]?
  let header ← map.headers[position]?
  return header.value

/-- Whether there is a header of that name. -/
def contains (map : HeaderMap) (name : HeaderName) : Bool :=
  map.index.contains name

/-- How many headers there are. -/
def size (map : HeaderMap) : Nat :=
  map.headers.length

/-- Whether there are none. -/
def isEmpty (map : HeaderMap) : Bool :=
  map.headers.isEmpty

/-- Whether two indexes have one size and every entry of the first is in the
second: its name, in some spelling, at the same position. -/
def sameIndex (a b : HeaderMap) : Bool :=
  a.index.size == b.index.size &&
    (a.index.filter fun name position => b.index[name]? != some position).isEmpty

/-- Equality of header maps. -/
def same (a b : HeaderMap) : Bool :=
  a.headers == b.headers && sameIndex a b

instance : BEq HeaderMap := ⟨same⟩

end HeaderMap
end HttpEngine
