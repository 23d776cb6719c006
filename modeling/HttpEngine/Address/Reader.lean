import HttpEngine.Address.Text

/-!
# Reading addresses

The readers accept what `Address.Text` writes and every other spelling of the
same addresses.
-/

namespace HttpEngine

/-- Splits at every occurrence of a mark. -/
def splitAtMark (mark : Char) : List Char → List (List Char)
  | [] => [[]]
  | c :: rest =>
      match splitAtMark mark rest with
      | [] => [[c]]
      | part :: parts => if c = mark then [] :: part :: parts else (c :: part) :: parts

/-- A decimal number below a bound. -/
def readDecimal? (bound : Nat) (digits : List Char) : Option Nat :=
  if digits.isEmpty || !digits.all Char.isDigit then none
  else
    let value := digits.foldl (fun n c => n * 10 + (c.toNat - '0'.toNat)) 0
    if value < bound then some value else none

/-- A decimal number of eight bits without leading zeros. -/
def readOctet? (digits : List Char) : Option UInt8 :=
  if 1 < digits.length && digits.head? == some '0' then none
  else (readDecimal? 256 digits).map UInt8.ofNat

/-- An address of the fourth version. -/
def Ipv4.read? (chars : List Char) : Option Ipv4 :=
  match splitAtMark '.' chars with
  | [a, b, c, d] => do
      return ⟨← readOctet? a, ← readOctet? b, ← readOctet? c, ← readOctet? d⟩
  | _ => none

namespace Ipv6

/-- The value of a hexadecimal digit in either case. -/
def hexValue? (c : Char) : Option Nat :=
  if c.isDigit then some (c.toNat - '0'.toNat)
  else if 'a' ≤ c ∧ c ≤ 'f' then some (c.toNat - 'a'.toNat + 10)
  else if 'A' ≤ c ∧ c ≤ 'F' then some (c.toNat - 'A'.toNat + 10)
  else none

/-- One group of one to four hexadecimal digits. -/
def readGroup? (digits : List Char) : Option UInt16 :=
  if digits.isEmpty || 4 < digits.length then none
  else do
    let values ← digits.mapM hexValue?
    return UInt16.ofNat (values.foldl (fun n v => n * 16 + v) 0)

/-- Groups separated by colons; the last may be an address of the fourth
version and then counts for two. -/
def readParts? : List (List Char) → Option (List UInt16)
  | [] => some []
  | [last] =>
      match Ipv4.read? last with
      | some ip =>
          some [ip.a.toUInt16 <<< 8 ||| ip.b.toUInt16, ip.c.toUInt16 <<< 8 ||| ip.d.toUInt16]
      | none => (readGroup? last).map ([·])
  | part :: rest => do
      let group ← readGroup? part
      let groups ← readParts? rest
      return group :: groups

/-- The groups before a double colon, or nothing at all. -/
def readLeft? (chars : List Char) : Option (List UInt16) :=
  if chars.isEmpty then some [] else (splitAtMark ':' chars).mapM readGroup?

/-- The groups after a double colon, or nothing at all. -/
def readRight? (chars : List Char) : Option (List UInt16) :=
  if chars.isEmpty then some [] else readParts? (splitAtMark ':' chars)

/-- What stands before and after the first double colon. -/
def cutDoubleColon? : List Char → Option (List Char × List Char)
  | ':' :: ':' :: rest => some ([], rest)
  | c :: rest => (cutDoubleColon? rest).map fun (left, right) => (c :: left, right)
  | [] => none

/-- An address from exactly eight groups. -/
def ofGroups? (groups : List UInt16) : Option Ipv6 :=
  if h : groups.length = 8 then some ⟨⟨groups.toArray, by simpa using h⟩⟩ else none

/-- An address of the sixth version. -/
def read? (chars : List Char) : Option Ipv6 :=
  match cutDoubleColon? chars with
  | none => (readRight? chars).bind ofGroups?
  | some (left, right) => do
      let left ← readLeft? left
      let right ← readRight? right
      if 8 ≤ left.length + right.length then none
      else
        let zeros := List.replicate (8 - (left.length + right.length)) 0
        ofGroups? (left ++ zeros ++ right)

end Ipv6

/-- An address of either version. -/
def IpAddress.read? (text : String) : Option IpAddress :=
  match Ipv4.read? text.toList with
  | some ip => some (.v4 ip)
  | none => (Ipv6.read? text.toList).map .v6

/-- A port. -/
def readPort? (digits : List Char) : Option UInt16 :=
  (readDecimal? 65536 digits).map UInt16.ofNat

/-- An address of the sixth version with its scope. -/
def readScoped? (chars : List Char) : Option (Ipv6 × UInt32) :=
  match splitAtMark '%' chars with
  | [ip] => (Ipv6.read? ip).map fun ip => (ip, 0)
  | [ip, scope] => do
      let ip ← Ipv6.read? ip
      let scope ← readDecimal? 4294967296 scope
      return (ip, UInt32.ofNat scope)
  | _ => none

/-- A socket address. -/
def SocketAddress.read? (text : String) : Option SocketAddress :=
  match text.toList with
  | '[' :: rest =>
      match splitAtMark ']' rest with
      | [inner, ':' :: port] => do
          let (ip, scope) ← readScoped? inner
          return .v6 ip (← readPort? port) scope
      | _ => none
  | chars =>
      match splitAtMark ':' chars with
      | [ip, port] => do
          return .v4 (← Ipv4.read? ip) (← readPort? port)
      | _ => none

end HttpEngine
