import DataLayer.Markup.Literal
import DataLayer.Markup.Picture
import DataLayer.Markup.Style
import DataLayer.Markup.Tag
import DataLayer.Text.Word

/-! What marked-up text says: the characters that are read, and the styles of parts of them. A tag
sets the style of what follows up to the tag that closes it, or up to the end. -/

namespace DataLayer.Markup

open DataLayer.Text

/-- A tag that is open: its normal name, the words after its equals sign, and the number of
characters before it. -/
structure OpenTag where
  name : String
  parameters : Option String
  start : Nat

/-- A part of a text, and the words for its style. Where something other than a style sets it apart
there are none. -/
structure Span where
  start : Nat
  stop : Nat
  style : Option String := none

/-- A text as it is read, and the styles of its parts in the order of their starts. -/
structure Marked where
  chars : List Char
  spans : List Span

/-- The part of a tag before its parameters. -/
def tagName (content : List Char) : List Char := content.takeWhile (· != '=')

/-- The part of a tag after its equals sign. -/
def tagParameters? (content : List Char) : Option String :=
  match content.drop (tagName content).length with
  | [] => none
  | _ :: parameters => some (String.ofList parameters)

namespace OpenTag

/-- Holds of tags that name something to be done, and no style. -/
def isAction (tag : OpenTag) : Bool := tag.name.toList.head? == some '@'

/-- The part of a text that a tag is set on. -/
def span (tag : OpenTag) (stop : Nat) : Span where
  start := tag.start
  stop
  style := some (match tag.parameters with
    | some parameters => tag.name ++ " " ++ parameters
    | none => tag.name)

/-- Holds when the parameters of an action can be read: as what is to be done, with or without
values between brackets, or as values alone. -/
def isReadable (tag : OpenTag) : Bool :=
  match tag.parameters with
  | none => true
  | some "" => true
  | some parameters =>
    let chars := trimChars isBlank parameters.toList
    let handler := chars.takeWhile fun c => isWordChar c || c == '.'
    let values := chars.drop handler.length
    let isCall := values.head? = some '(' && values.getLast? = some ')' && !values.contains '\n'
    if values.isEmpty then true else isLiteral (if isCall then values else chars)

/-- The part that a tag leaves where it is closed. -/
def close (tag : OpenTag) (stop : Nat) : Except Misuse Span :=
  if !tag.isAction then .ok (tag.span stop)
  else if tag.isReadable then .ok { start := tag.start, stop }
  else .error (.strayTag "error parsing the parameters of a tag")

end OpenTag

/-- Takes the innermost open tag of a name away. -/
def closeNamed (name : String) : List OpenTag → Option (OpenTag × List OpenTag)
  | [] => none
  | first :: rest =>
    if first.name = name then some (first, rest)
    else (closeNamed name rest).map fun found => (found.1, first :: found.2)

/-- What is read so far: the characters in reverse and their number, the tags that are open,
innermost first, and the parts that are closed, the last one first. -/
structure Progress where
  reversed : List Char := []
  length : Nat := 0
  opened : List OpenTag := []
  closed : List Span := []

namespace Progress

/-- Closes a tag. -/
def close (progress : Progress) (found : OpenTag × List OpenTag) : Except Misuse Progress := do
  let span ← found.1.close progress.length
  return { progress with opened := found.2, closed := span :: progress.closed }

/-- Adds a tag. A closing tag that names nothing closes the innermost one. -/
def withTag (progress : Progress) (content : List Char) : Except Misuse Progress := do
  match tagName content with
  | '/' :: name =>
    let wanted := strip (String.ofList name)
    if wanted = "" then
      match progress.opened with
      | [] => .error (.strayTag "closing tag has nothing to close")
      | first :: rest => progress.close (first, rest)
    else match closeNamed (← normalName wanted) progress.opened with
      | some found => progress.close found
      | none => .error (.strayTag
          ("closing tag '[" ++ String.ofList content ++ "]' doesn't match any open tag"))
  | name =>
    let tag : OpenTag :=
      { name := ← normalName (String.ofList name), parameters := tagParameters? content
        start := progress.length }
    return { progress with opened := tag :: progress.opened }

/-- Adds characters. -/
def withChars (progress : Progress) (chars : List Char) : Progress :=
  { progress with
    reversed := chars.reverse ++ progress.reversed
    length := progress.length + chars.length }

/-- The marked text, once nothing follows. Tags that are still open are set up to the end. -/
def finish (progress : Progress) : Marked where
  chars := progress.reversed.reverse
  spans :=
    let spans := (progress.opened.reverse.map fun tag => tag.span progress.length)
      ++ progress.closed
    spans.mergeSort fun one other => one.start ≤ other.start

end Progress

/-- A bracket that a backslash keeps is written without it. -/
def unescaped : List Char → List Char
  | '\\' :: '[' :: rest => '[' :: unescaped rest
  | c :: rest => c :: unescaped rest
  | [] => []

/-- Holds of the controls that are never written. -/
def isSilent (c : Char) : Bool := [7, 8, 11, 12, 13].contains c.toNat

/-- Adds a piece. -/
def Progress.add (progress : Progress) : Piece → Except Misuse Progress
  | .plain chars =>
    .ok (progress.withChars ((withPictures (unescaped chars)).filter fun c => !isSilent c))
  | .tag content => progress.withTag content

namespace Marked

/-- Reads a marked-up text. -/
def ofText (text : String) : Except Misuse Marked :=
  ((pieces text).foldlM Progress.add {}).map Progress.finish

/-- Reads the styles of all parts, for the complaints about them. Words that name no style are
passed over. -/
def checkStyles (marked : Marked) : Except Misuse Unit :=
  marked.spans.forM fun span =>
    match span.style with
    | some words => (Style.ofText? words).map fun _ => ()
    | none => .ok ()

end Marked
end DataLayer.Markup
