import DataLayer.Text.Blank
import DataLayer.Text.NameTable

/-! The names of characters. -/

namespace DataLayer.Text

/-- Holds when a word stands in one of some rows of words. -/
def hasWord (rows : List String) (word : List Char) : Bool :=
  rows.any fun row => (splitAtChar ' ' row.toList).contains word

/-- Holds of texts that read like the name of a character: a known name of one word, or several
words after a known first one. Capital and small letters are the same. -/
def isCharacterName (name : List Char) : Bool :=
  match splitAtChar ' ' (name.map Char.toLower) with
  | [] => false
  | [word] => hasWord shortNames word
  | first :: rest => hasWord nameStarts first
    && rest.all fun word => !word.isEmpty && word.all fun c => c.isAlphanum || c == '-'

end DataLayer.Text
