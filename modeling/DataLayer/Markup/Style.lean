import DataLayer.Markup.ColourTable
import DataLayer.Text.Case
import DataLayer.Value.Whole

/-! The names of styles in marked-up text.

A style is named by words: attributes, a colour, a ground and a link. Styles with the same effect
have one normal name, whatever the order of the words; a name that is no style is its own. -/

namespace DataLayer.Markup

open DataLayer.Text

/-- The attributes of writing, in the order in which a normal name gives them, each with the words
for it. -/
def attributeWords : List (String × List String) :=
  [("bold", ["bold", "b"]), ("dim", ["dim", "d"]), ("italic", ["italic", "i"]),
    ("underline", ["underline", "u"]), ("blink", ["blink"]), ("blink2", ["blink2"]),
    ("reverse", ["reverse", "r"]), ("conceal", ["conceal", "c"]), ("strike", ["strike", "s"]),
    ("underline2", ["underline2", "uu"]), ("frame", ["frame"]), ("encircle", ["encircle"]),
    ("overline", ["overline", "o"])]

/-- The attribute that a word stands for. -/
def attribute? (word : String) : Option String :=
  (attributeWords.find? fun entry => entry.2.contains word).map Prod.fst

/-- The largest part of a colour, and the largest number of one. -/
def mostColour : Nat := 255

/-- What stands between an opening word and the closing bracket at the end. -/
private def inside? (opening : String) (chars : List Char) : Option (List Char) :=
  if opening.toList.isPrefixOf chars && chars.getLast? == some ')' then
    some ((chars.drop opening.length).dropLast)
  else none

private def isLowHexDigit (c : Char) : Bool := c.isDigit || ('a' ≤ c && c ≤ 'f')

/-- Holds of the numbers of colours, in at most three digits. -/
private def isColourNumber (digits : List Char) : Bool :=
  !digits.isEmpty && digits.length ≤ 3 && digits.all Char.isDigit
    && numberOf (digits.filterMap digitValue?) ≤ mostColour

/-- Tells whether parts between commas mix a colour. Three parts are read as numbers, and one that
cannot be read is complained about. -/
def mixesColour (parts : List Char) : Except Misuse Bool :=
  if parts.isEmpty || !parts.all (fun c => isDigit c || c == ',') then .ok false
  else match splitAtChar ',' parts with
    | [red, green, blue] => do
      let numbers ← [red, green, blue].mapM fun part => (Value.text (String.ofList part)).whole
      return numbers.all (· ≤ mostColour)
    | _ => .ok false

/-- Tells whether a word is a colour: a name, three bytes in hexadecimal or between brackets, or a
number. -/
def isColour (word : String) : Except Misuse Bool :=
  let chars := word.toList
  let plain := word == "default"
    || colourRows.any (fun row => (Text.words row.toList).contains chars)
    || (match chars with
      | '#' :: digits => digits.length == 6 && digits.all isLowHexDigit
      | _ => false)
    || ((inside? "color(" chars).map isColourNumber).getD false
  match plain, inside? "rgb(" chars with
  | false, some parts => mixesColour parts
  | _, _ => .ok plain

/-- What the words of a name say. -/
structure Style where
  attributes : List (String × Bool) := []
  colour : Option String := none
  ground : Option String := none
  link : Option String := none

namespace Style

/-- Sets an attribute, for or against. -/
def set (s : Style) (name : String) (wanted : Bool) : Style :=
  { s with attributes := (s.attributes.filter fun entry => entry.1 != name) ++ [(name, wanted)] }

/-- The style with one more word, unless the word says nothing about styles. -/
def withWord (s : Style) (word : String) : Except Misuse (Option Style) := do
  match attribute? word with
  | some name => return some (s.set name true)
  | none => return if ← isColour word then some { s with colour := some word } else none

/-- Reads words one after the other, up to the first that says nothing about styles. -/
def read (s : Style) : List String → Except Misuse (Option Style)
  | [] => .ok (some s)
  | [word] => s.withWord (lower word)
  | word :: next :: rest => do
    let known := lower word
    if known = "on" then
      let ground := lower next
      if ← isColour ground then read { s with ground := some ground } rest else return none
    else if known = "not" then
      match attribute? next with
      | some name => read (s.set name false) rest
      | none => return none
    else if known = "link" then read { s with link := some next } rest
    else match ← s.withWord known with
      | some more => read more (next :: rest)
      | none => return none

/-- The style that a text names, if it names one. -/
def ofText? (text : String) : Except Misuse (Option Style) :=
  if strip text = "none" then .ok (some {})
  else read {} ((Text.words text.toList).map String.ofList)

/-- The normal name of a style. -/
def name (s : Style) : String :=
  let attributes := attributeWords.filterMap fun entry =>
    (s.attributes.find? fun wish => wish.1 == entry.1).map fun wish =>
      if wish.2 then entry.1 else "not " ++ entry.1
  let parts := attributes ++ s.colour.toList ++ (s.ground.toList.map ("on " ++ ·))
    ++ (s.link.toList.map ("link " ++ ·))
  if parts.isEmpty then "none" else " ".intercalate parts

end Style

/-- The normal form of a style's name. -/
def normalName (text : String) : Except Misuse String := do
  match ← Style.ofText? text with
  | some style => return style.name
  | none => return lower (strip text)

end DataLayer.Markup
