/-!
# Bytes, lines and blanks

Everything a client sends or receives is a byte string. A line ends at a line
feed, and one carriage return right before the line feed belongs to the line
end. Blanks are the space, the carriage return and the line feed.

The functions here take byte strings apart: `cut?` at the first occurrence of
a mark, `trim` at the blanks around a value, `dropReturn` at a carriage return
that ends a line.
-/

namespace HttpEngine

/-- A byte string as it stands on the wire. -/
abbrev Bytes := List UInt8

namespace Bytes

/-- The UTF-8 bytes of a text. -/
def ofText (text : String) : Bytes :=
  text.toUTF8.data.toList

/-- The byte that ends a line. -/
def lineFeed : UInt8 := 10

/-- The byte that may stand right before the end of a line. -/
def carriageReturn : UInt8 := 13

/-- The byte between the parts of a request line. -/
def space : UInt8 := 32

/-- The byte between a header's name and its value. -/
def colon : UInt8 := 58

/-- The two bytes that end every line the engine writes. -/
def lineEnd : Bytes := [carriageReturn, lineFeed]

/-- What stands before and after the first occurrence of a mark. -/
def cut?
    (mark : UInt8) (bytes : Bytes) :
    Option (Bytes × Bytes) :=
  match bytes.dropWhile (· != mark) with
  | [] => none
  | _ :: tail => some (bytes.takeWhile (· != mark), tail)

/-- The bytes that a value loses at its ends. -/
def isBlank (b : UInt8) : Bool :=
  b == space || b == carriageReturn || b == lineFeed

/-- The bytes that may stand between the header block and a body. -/
def isLineBreak (b : UInt8) : Bool :=
  b == carriageReturn || b == lineFeed

/-- A byte string less the blanks at its end. -/
def trimEnd (bytes : Bytes) : Bytes :=
  (bytes.reverse.dropWhile isBlank).reverse

/-- A byte string less the blanks at both ends. -/
def trim (bytes : Bytes) : Bytes :=
  trimEnd (bytes.dropWhile isBlank)

/-- A line less one carriage return at its end. -/
def dropReturn (line : Bytes) : Bytes :=
  if line.getLast? = some carriageReturn then line.dropLast else line

/-- Cutting puts nothing in and loses only the mark. -/
theorem append_of_cut?_eq_some
    {mark : UInt8} {bytes head tail : Bytes}
    (hcut : cut? mark bytes = some (head, tail)) :
    bytes = head ++ mark :: tail := by
  unfold cut? at hcut
  split at hcut
  · contradiction
  · next b rest hdrop =>
      simp only [Option.some.injEq, Prod.mk.injEq] at hcut
      obtain ⟨rfl, rfl⟩ := hcut
      have hmark : b = mark := by
        have hhead := List.head?_dropWhile_not (· != mark) bytes
        simpa [hdrop] using hhead
      calc
        bytes = bytes.takeWhile (· != mark) ++ bytes.dropWhile (· != mark) :=
          List.takeWhile_append_dropWhile.symm
        _ = bytes.takeWhile (· != mark) ++ mark :: rest := by
          rw [hdrop, hmark]

/-- What is left after a cut is shorter than what was cut. -/
theorem length_lt_of_cut?_eq_some
    {mark : UInt8} {bytes head tail : Bytes}
    (hcut : cut? mark bytes = some (head, tail)) :
    tail.length < bytes.length := by
  rw [append_of_cut?_eq_some hcut, List.length_append, List.length_cons]
  omega

end Bytes

end HttpEngine
