import HttpEngine.Bytes

/-!
# Reading bytes as UTF-8

`Utf8.read?` reads bytes that are valid UTF-8 throughout. `Utf8.readLossy` reads
any bytes: each maximal part that no character starts with, or that a character
starts with but does not continue, becomes one replacement character.

The lossy reader is a machine that runs over the bytes one at a time. Between
characters it owes no byte; within a character it knows how many continuation
bytes are owed and between which bounds the next of them must lie. The bounds
shut out overlong forms, surrogates and code points past the last plane.
-/

namespace HttpEngine
namespace Utf8

/-- The text of bytes that are valid UTF-8 throughout. -/
def read? (bytes : Bytes) : Option String :=
  String.fromUTF8? ⟨bytes.toArray⟩

/-- What stands for a part of the input that is not UTF-8. -/
def replacement : Char := '\uFFFD'

/-- The character under way: the continuation bytes still owed, the bits read
so far, and the bounds of the next byte. -/
structure Pending where
  owed : Nat
  value : Nat
  low : UInt8 := 0x80
  high : UInt8 := 0xBF
deriving Repr, DecidableEq

/-- The reader: the characters read so far, the last one first, and the
character under way. -/
structure Reader where
  done : List Char := []
  pending : Option Pending := none
deriving Repr, DecidableEq

/-- What the first byte of a character of two or more bytes announces. -/
def announced? (b : UInt8) : Option Pending :=
  if 0xC2 ≤ b ∧ b ≤ 0xDF then some { owed := 1, value := b.toNat - 0xC0 }
  else if b = 0xE0 then some { owed := 2, value := 0, low := 0xA0 }
  else if b = 0xED then some { owed := 2, value := 0xD, high := 0x9F }
  else if 0xE1 ≤ b ∧ b ≤ 0xEF then some { owed := 2, value := b.toNat - 0xE0 }
  else if b = 0xF0 then some { owed := 3, value := 0, low := 0x90 }
  else if b = 0xF4 then some { owed := 3, value := 4, high := 0x8F }
  else if 0xF1 ≤ b ∧ b ≤ 0xF3 then some { owed := 3, value := b.toNat - 0xF0 }
  else none

/-- Takes a byte between characters. -/
def Reader.start (done : List Char) (b : UInt8) : Reader :=
  if b < 0x80 then { done := Char.ofNat b.toNat :: done }
  else
    match announced? b with
    | some pending => { done := done, pending := some pending }
    | none => { done := replacement :: done }

/-- Takes the next byte. A byte that does not continue the character under way
ends it as one replacement and is read again between characters. -/
def Reader.push (reader : Reader) (b : UInt8) : Reader :=
  match reader.pending with
  | none => Reader.start reader.done b
  | some pending =>
      if pending.low ≤ b ∧ b ≤ pending.high then
        let value := pending.value * 64 + (b.toNat - 0x80)
        match pending.owed with
        | 0 | 1 => { done := Char.ofNat value :: reader.done }
        | owed + 1 => { done := reader.done, pending := some { owed := owed, value := value } }
      else
        Reader.start (replacement :: reader.done) b

/-- The characters read, first to last; a character under way is cut off. -/
def Reader.finish (reader : Reader) : List Char :=
  match reader.pending with
  | none => reader.done.reverse
  | some _ => (replacement :: reader.done).reverse

/-- The text of any bytes, with a replacement for each part that is not
UTF-8. -/
def readLossy (bytes : Bytes) : String :=
  String.ofList (bytes.foldl Reader.push {}).finish

end Utf8
end HttpEngine
