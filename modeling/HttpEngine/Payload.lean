import HttpEngine.Decimal.Digits

/-!
# Payloads

The payload of a reply is put together from parts. Text is written as UTF-8,
bytes are written as they are, an integer by its decimal digits, a truth value
by its name and a character by its UTF-8 bytes. Formatted text is handed over
in pieces. Every part is appended to what has been written before.

Integers of all widths are written as integers of 128 bits: one without sign is
filled up with zeros, one with sign with its sign bit. The absolute value of an
integer with sign has no sign, so the least one has an absolute value, too.
-/

namespace HttpEngine

/-- The widths an integer part may have, in bits. An integer of the size of a
pointer has 64 of them. -/
inductive Width where
  | w8
  | w16
  | w32
  | w64
  | w128
deriving Repr, DecidableEq

/-- The number of bits. -/
def Width.bits : Width → Nat
  | .w8 => 8
  | .w16 => 16
  | .w32 => 32
  | .w64 => 64
  | .w128 => 128

/-- One part of a payload. -/
inductive Part where
  /-- A text, however it is held. -/
  | text (value : String)
  /-- Bytes, however they are held. -/
  | bytes (value : Bytes)
  /-- An integer without sign. -/
  | unsigned (width : Width) (value : BitVec width.bits)
  /-- An integer with sign, in two's complement. -/
  | signed (width : Width) (value : BitVec width.bits)
  /-- A truth value. -/
  | flag (value : Bool)
  /-- A character. -/
  | char (value : Char)
  /-- Formatted text, in the pieces in which it is handed over. -/
  | formatted (pieces : List String)
deriving Repr

namespace Part

/-- Appends the digits of a number of 128 bits. -/
def writeUnsigned (value : BitVec 128) (written : Bytes) : Bytes :=
  written ++ (DigitBuffer.ofWord value).text

/-- Appends a minus sign, if the number is negative, and then the digits of its
absolute value. -/
def writeSigned (value : BitVec 128) (written : Bytes) : Bytes :=
  writeUnsigned value.abs (if value.slt 0 then written ++ [Decimal.minus] else written)

/-- Appends a part to what has been written. -/
def write (part : Part) (written : Bytes) : Bytes :=
  match part with
  | .text value => written ++ Bytes.ofText value
  | .bytes value => written ++ value
  | .unsigned _ value => writeUnsigned (value.setWidth 128) written
  | .signed _ value => writeSigned (value.signExtend 128) written
  | .flag true => written ++ Bytes.ofText "true"
  | .flag false => written ++ Bytes.ofText "false"
  | .char value => written ++ String.utf8EncodeChar value
  | .formatted pieces =>
      pieces.foldl (fun written piece => written ++ Bytes.ofText piece) written

/-- Writes parts one after the other. -/
def writeAll (parts : List Part) (written : Bytes) : Bytes :=
  parts.foldl (fun written part => part.write written) written

end Part
end HttpEngine
