/-! Lines of a text. A line ends at a line feed, a carriage return or both, at a vertical tab, a
form feed or one of three information separators, and where a next line, a line separator or a
paragraph separator stands. -/

namespace DataLayer.Text

/-- Holds of characters that end a line. -/
def endsLine (c : Char) : Bool :=
  let code := c.toNat
  (0xa ≤ code && code ≤ 0xd) || (0x1c ≤ code && code ≤ 0x1e) || code == 0x85
    || code == 0x2028 || code == 0x2029

/-- Reads lines from left to right; `line` holds the last one so far, reversed, and `isOpen` tells
whether it was begun. A carriage return and a line feed after it end one line together. -/
def linesAfter (line : List Char) (isOpen : Bool) : List Char → List (List Char)
  | [] => if isOpen then [line.reverse] else []
  | '\r' :: '\n' :: rest => line.reverse :: linesAfter [] false rest
  | c :: rest =>
    if endsLine c then line.reverse :: linesAfter [] false rest
    else linesAfter (c :: line) true rest

/-- The lines of a text without what ends them. Nothing follows the end of the last line. -/
def lines (text : String) : List String := (linesAfter [] false text.toList).map String.ofList

/-- Carriage returns, and those with a line feed after them, as line feeds. -/
def unifyLineEnds : List Char → List Char
  | [] => []
  | '\r' :: '\n' :: rest => '\n' :: unifyLineEnds rest
  | '\r' :: rest => '\n' :: unifyLineEnds rest
  | c :: rest => c :: unifyLineEnds rest

end DataLayer.Text
