import HttpEngine.Address

/-!
# Addresses as text

The fourth version is written in decimal with points. The sixth is written in
lower-case hexadecimal groups with colons; the first longest run of two or more
zero groups becomes a double colon, and an address that embeds one of the
fourth version ends in the decimal form. In a socket address the sixth version
stands between square brackets, with the scope after a percent sign unless it
is zero.

The readers accept every spelling of the same addresses: groups of up to four
digits in either case, one double colon, and the decimal form at the end.
-/

namespace HttpEngine

/-- Numbers without leading zeros, separated by points. -/
def Ipv4.text (ip : Ipv4) : String :=
  String.intercalate "." ([ip.a, ip.b, ip.c, ip.d].map fun n => toString n.toNat)

namespace Ipv6

/-- Groups in hexadecimal, separated by colons. -/
def joinGroups (groups : List UInt16) : String :=
  String.intercalate ":" (groups.map fun g => String.ofList (Nat.toDigits 16 g.toNat))

/-- How many zero groups a list begins with. -/
def zeroRun (groups : List UInt16) : Nat :=
  (groups.takeWhile (· == 0)).length

/-- The start and the length of the first longest run of zero groups, looking
from a position on; a run has to be longer than the best one so far. -/
def longestRun :
    (position : Nat) → (best : Nat × Nat) → List UInt16 → Nat × Nat
  | _, best, [] => best
  | position, best, g :: rest =>
      let run := zeroRun (g :: rest)
      longestRun (position + 1) (if best.2 < run then (position, run) else best) rest

/-- The address of the fourth version that an address embeds. -/
def embedded? (ip : Ipv6) : Option Ipv4 :=
  match ip.groups.toList with
  | [0, 0, 0, 0, 0, 0xffff, high, low] =>
      some ⟨(high >>> 8).toUInt8, high.toUInt8, (low >>> 8).toUInt8, low.toUInt8⟩
  | _ => none

/-- The canonical form. -/
def text (ip : Ipv6) : String :=
  match ip.embedded? with
  | some inner => "::ffff:" ++ inner.text
  | none =>
      let groups := ip.groups.toList
      let (start, length) := longestRun 0 (0, 0) groups
      if 1 < length then
        joinGroups (groups.take start) ++ "::" ++ joinGroups (groups.drop (start + length))
      else
        joinGroups groups

end Ipv6

/-- The canonical form of either version. -/
def IpAddress.text : IpAddress → String
  | .v4 ip => ip.text
  | .v6 ip => ip.text

/-- The canonical form of a socket address. -/
def SocketAddress.text : SocketAddress → String
  | .v4 ip port => ip.text ++ ":" ++ toString port.toNat
  | .v6 ip port scope =>
      let zone := if scope = 0 then "" else "%" ++ toString scope.toNat
      "[" ++ ip.text ++ zone ++ "]:" ++ toString port.toNat

end HttpEngine
