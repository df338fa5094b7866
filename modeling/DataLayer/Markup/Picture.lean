import DataLayer.Markup.PictureTable
import DataLayer.Text.Blank
import DataLayer.Text.Case
import DataLayer.Text.Digit

/-! Pictures by name. A name between colons stands for a picture; it may end with a wish for the
coloured or the plain form. Unknown names are left as they are. -/

namespace DataLayer.Markup

open DataLayer.Text

private def hexDigit (c : Char) : Nat := if c.isDigit then c.toNat - 48 else c.toNat - 87

private def charOf (digits : List Char) : Char :=
  Char.ofNat (digits.foldl (fun total c => 16 * total + hexDigit c) 0)

/-- The entry of a name in a row of the table. -/
private def entry? (name row : List Char) : Option (List Char) :=
  ((Text.words row).find? fun entry => (name ++ ['=']).isPrefixOf entry).map fun entry =>
    (splitAtChar '-' (entry.drop (name.length + 1))).map charOf

/-- The picture of a name. -/
def picture? (name : List Char) : Option (List Char) :=
  pictureRows.findSome? fun row => entry? name row.toList

/-- The wishes for a form, each with the mark that asks for it. -/
def variantMarks : List (List Char × Char) :=
  [("-emoji".toList, Char.ofNat 0xfe0f), ("-text".toList, Char.ofNat 0xfe0e)]

/-- What a name between colons stands for. -/
def meaning? (name : List Char) : Option (List Char) :=
  let wish := variantMarks.find? fun mark => mark.1.isSuffixOf name
  let bare := name.take (name.length - (wish.map fun mark => mark.1.length).getD 0)
  (picture? (lower (String.ofList bare)).toList).map fun picture =>
    picture ++ (wish.map Prod.snd).toList

/-- Holds of characters that a name between colons can have. -/
def isNameChar (c : Char) : Bool := c != ':' && !isBlank c

/-- What follows the first colon after a name is shorter than what the name stands in. -/
theorem length_after_lt {chars after : List Char} {c : Char}
    (closing : chars.dropWhile isNameChar = c :: after) : after.length < chars.length + 1 := by
  have shorter := (List.dropWhile_suffix (l := chars) isNameChar).length_le
  rw [closing] at shorter
  exact Nat.lt_succ_of_le (Nat.le_of_succ_le shorter)

/-- Puts pictures in place of their names. -/
def withPictures : List Char → List Char
  | [] => []
  | c :: rest =>
    if c = ':' then
      match closing : rest.dropWhile isNameChar with
      | ':' :: after =>
        let name := rest.takeWhile isNameChar
        have : after.length < rest.length + 1 := length_after_lt closing
        (meaning? name).getD (':' :: name ++ [':']) ++ withPictures after
      | _ => c :: withPictures rest
    else c :: withPictures rest
termination_by chars => chars.length

end DataLayer.Markup
