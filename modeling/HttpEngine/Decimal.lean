import HttpEngine.Bytes

/-!
# Decimal numbers

Numbers are written in canonical form: the digits of the absolute value without
a leading zero, a single `0` for zero, and a minus sign in front of a negative
number. `read?` accepts a non-empty string of digits, leading zeros included,
whose value fits into a 64-bit word, and nothing else.
-/

namespace HttpEngine
namespace Decimal

/-- The ASCII digit of a number below ten. -/
def digit (n : Nat) : UInt8 :=
  UInt8.ofNat (48 + n)

/-- The ten ASCII digits. -/
def isDigit (b : UInt8) : Bool :=
  48 ≤ b && b ≤ 57

/-- The number that a digit stands for. -/
def digitValue (b : UInt8) : Nat :=
  b.toNat - 48

/-- The ASCII minus sign. -/
def minus : UInt8 := 45

/-- The digits of a natural number, the most significant first. -/
def ofNat (n : Nat) : Bytes :=
  if n < 10 then [digit n] else ofNat (n / 10) ++ [digit (n % 10)]

/-- The canonical form of an integer. -/
def ofInt (z : Int) : Bytes :=
  if z < 0 then minus :: ofNat z.natAbs else ofNat z.natAbs

/-- The least number that does not fit into a 64-bit word. -/
def wordLimit : Nat := UInt64.size

/-- A number, refused when it does not fit into a 64-bit word. -/
def inWord? (n : Nat) : Option Nat :=
  if n < wordLimit then some n else none

/-- Takes one more digit into a number; both the shift and the sum must fit. -/
def push? (value : Nat) (b : UInt8) : Option Nat := do
  if isDigit b then
    let shifted ← inWord? (value * 10)
    inWord? (shifted + digitValue b)
  else
    none

/-- The 64-bit number that a string of digits stands for. -/
def read? : Bytes → Option Nat
  | [] => none
  | b :: rest => (b :: rest).foldlM push? 0

end Decimal
end HttpEngine
