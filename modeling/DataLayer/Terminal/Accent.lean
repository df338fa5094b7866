import DataLayer.Markup.Marked
import DataLayer.Text.Digit
import DataLayer.Text.Pattern
import DataLayer.Text.Width

/-! Parts of a line that a terminal sets apart by itself: brackets, numbers, addresses, paths,
quoted texts, and names with what they are set to. -/

namespace DataLayer.Terminal

open DataLayer.Markup DataLayer.Text

namespace Accent

open Pattern

private def digit : Pattern := one Char.isDigit

private def hexDigit : Pattern := one isHexDigit

private def wordChar : Pattern := one isWordChar

/-- A character that can stand in the name of a file. -/
private def pathChar : Pattern := one fun c => isWordChar c || "-._+".toList.contains c

/-- What stands between angle brackets, with the name at its head. -/
def element : Pattern :=
  all [noted (text "<"), noted (many (one fun c => isWordChar c || "-.:|".toList.contains c)),
    noted (many (one fun _ => true)), noted (text ">")]

/-- A name and the word that it is set to. -/
def setting : Pattern :=
  all [noted (upTo 50 wordChar), text "=",
    maybe (noted (all [maybe (text "\""), atLeastOnce wordChar, maybe (text "\"")]))]

/-- A bracket. -/
def bracket : Pattern := noted (oneOf "][\x7b\x7d()")

/-- Four numbers with points between them. -/
def dottedAddress : Pattern :=
  let part := repeated true 1 (some 3) digit
  noted (all [part, text ".", part, text ".", part, text ".", part])

/-- Up to eight groups of digits to base sixteen with colons between them. -/
def colonAddress : Pattern :=
  let part := upTo 4 hexDigit
  noted (all [upTo 7 (all [part, text ":", maybe (text ":")]), part])

/-- The address of a device: pairs of digits, or half as many groups of four. -/
def deviceAddress (pairs : Nat) : Pattern :=
  let joined (mark : String) := all [times (pairs - 1) (all [upTo 2 hexDigit, text mark]),
    upTo 2 hexDigit]
  noted (any [joined "-", joined ":",
    all [times (pairs / 2 - 1) (all [times 4 hexDigit, text "."]), times 4 hexDigit]])

/-- An identifier of thirty-two digits in five groups. -/
def longIdentifier : Pattern :=
  let part (count : Nat) := times count hexDigit
  noted (all [part 8, text "-", part 4, text "-", part 4, text "-", part 4, text "-", part 12])

/-- A name before an opening bracket. -/
def call : Pattern :=
  all [noted (repeated false 0 none (one fun c => isWordChar c || c == '.')), text "("]

/-- One of three constants. -/
def constant : Pattern :=
  any (["True", "False", "None"].map fun word =>
    all [wordEdge true, noted (text word), wordEdge true])

/-- Digits with a point and more digits, perhaps. -/
private def decimals : Pattern := all [atLeastOnce digit, maybe (text "."), many digit]

/-- A power of ten, whose digits are taken as seldom or as often as they go. -/
private def power (most : Bool) : Pattern :=
  maybe (all [text "e", maybe (oneOf "-+"), repeated most 1 none (one isDigit)])

/-- A complex number. -/
def complexNumber : Pattern :=
  noted (all [notAfter isWordChar, maybe (text "-"), decimals, power false,
    maybe (all [oneOf "-+", decimals, power true]), text "j"])

/-- A number. -/
def number : Pattern :=
  noted (any [
    all [notAfter isWordChar, maybe (text "-"), decimals, power false, wordEdge true],
    all [text "0x", many hexDigit]])

/-- A path and the name of the file at its end. -/
def path : Pattern :=
  all [noted (all [wordEdge false, many (all [text "/", atLeastOnce pathChar]), text "/"]),
    maybe (noted (many pathChar))]

/-- A text between quotes. -/
def quotedText : Pattern :=
  let between (quote : String) := all [maybe (text "b"), text quote,
    repeated false 0 none (one (· != '\n')), notAfter (· == '\\'), text quote]
  all [notAfter fun c => c == '\\' || isWordChar c,
    noted (any [between "'''", between "'", between "\"\"\"", between "\""])]

/-- A locator. -/
def locator : Pattern :=
  noted (all [any (["file", "https", "http", "ws", "wss"].map text), text "://",
    many (one fun c => c.isAlphanum || "-$_+!`(),.?/;:&=%#~@".toList.contains c)])

/-- The kinds of parts. Those of one group do not overlap, and the first one that matches counts. -/
def groups : List Pattern :=
  [element, setting, bracket,
    any [dottedAddress, colonAddress, deviceAddress 8, deviceAddress 6, longIdentifier, call,
      constant, noted (text "..."), complexNumber, number, path, quotedText, locator]]

end Accent

/-- A text with the parts that are set apart. They matter to the width of a line only next to
joiners. -/
def accented (marked : Marked) : Marked :=
  if !marked.chars.contains joiner then marked
  else
    let notes := Accent.groups.flatMap fun group => group.notesIn marked.chars
    { marked with
      spans := (notes.filter fun note => note.1 < note.2).map
        (fun note => { start := note.1, stop := note.2 }) ++ marked.spans }

end DataLayer.Terminal
