import DataLayer.Text.Digit
import DataLayer.Text.PrintableTable

/-! Quoted text, as values are shown inside messages.

A text stands between single quotes, or between double quotes when it holds a single quote and
no double one. Tab, line feed and carriage return have an escape of their own; every other
character without a glyph is written by its number in two, four or eight digits. -/

namespace DataLayer.Text

/-- Holds of characters that have a glyph. -/
def isPrintable (c : Char) : Bool :=
  !(unprintableRanges.any fun range => range.1 ≤ c.toNat && c.toNat ≤ range.2)

/-- The quote that a text containing these characters is put between. -/
def quoteFor (chars : List Char) : Char :=
  if chars.contains '\x27' && !chars.contains '\x22' then '\x22' else '\x27'

/-- A character by its number, in the shortest of the three widths. -/
def numberEscape (code : Nat) : List Char :=
  if code ≤ 0xff then '\\' :: 'x' :: (paddedHex 2 code).toList
  else if code ≤ 0xffff then '\\' :: 'u' :: (paddedHex 4 code).toList
  else '\\' :: 'U' :: (paddedHex 8 code).toList

/-- One character as it stands between two `quote`s. -/
def quotedChar (quote c : Char) : List Char :=
  if c == quote || c == '\\' then ['\\', c]
  else if c == '\t' then ['\\', 't']
  else if c == '\n' then ['\\', 'n']
  else if c == '\r' then ['\\', 'r']
  else if isPrintable c then [c]
  else numberEscape c.toNat

/-- A text between quotes. -/
def quoted (text : String) : String :=
  let quote := quoteFor text.toList
  String.ofList (quote :: text.toList.flatMap (quotedChar quote) ++ [quote])

/-- One byte as it stands between two `quote`s: as its letter below 128, else by its number. -/
def quotedByte (quote : Char) (byte : UInt8) : List Char :=
  if byte.toNat < 128 then quotedChar quote (Char.ofNat byte.toNat)
  else numberEscape byte.toNat

/-- Bytes between quotes, marked by a leading letter. -/
def quotedBytes (bytes : List UInt8) : String :=
  let quote := quoteFor (bytes.map fun byte => Char.ofNat byte.toNat)
  String.ofList ('b' :: quote :: bytes.flatMap (quotedByte quote) ++ [quote])

end DataLayer.Text
