import HttpEngine.Text.Shown

/-!
# Quoted text

A quoted text stands between double quotes. The quote and the backslash are
escaped by a backslash; the zero character, the tab, the line feed and the
carriage return have a letter each; every other character that is not shown as
itself is written by its code point in lower-case hexadecimal digits between
braces.
-/

namespace HttpEngine
namespace Text

/-- A code point between braces, in lower-case hexadecimal digits. -/
def escapedCodePoint (c : Char) : List Char :=
  ['\\', 'u', '\x7b'] ++ Nat.toDigits 16 c.toNat ++ ['\x7d']

/-- One character as it stands in a quoted text. -/
def quotedChar (c : Char) : List Char :=
  if c = '\x00' then ['\\', '0']
  else if c = '\t' then ['\\', 't']
  else if c = '\n' then ['\\', 'n']
  else if c = '\r' then ['\\', 'r']
  else if c = '"' then ['\\', '"']
  else if c = '\\' then ['\\', '\\']
  else if isShown c then [c]
  else escapedCodePoint c

/-- A text between double quotes. -/
def quoted (text : String) : String :=
  String.ofList ('"' :: text.toList.flatMap quotedChar ++ ['"'])

end Text
end HttpEngine
