/-! White space, and what is left of a text when it is stripped or split at white space. -/

namespace DataLayer.Text

/-- Separators, line and paragraph ends and the four information separators. The zero-width
space is not among them. -/
def blankRanges : List (Nat × Nat) := [
    (0x9, 0xd), (0x1c, 0x20), (0x85, 0x85), (0xa0, 0xa0), (0x1680, 0x1680), (0x2000, 0x200a),
    (0x2028, 0x2029), (0x202f, 0x202f), (0x205f, 0x205f), (0x3000, 0x3000)]

/-- Holds of white space. -/
def isBlank (c : Char) : Bool :=
  blankRanges.any fun range => range.1 ≤ c.toNat && c.toNat ≤ range.2

/-- Holds of the white space that may stand around a number. The information separators are not
among it. -/
def isNumberSpace (c : Char) : Bool := isBlank c && !(0x1c ≤ c.toNat && c.toNat ≤ 0x1f)

/-- The characters without those at either end that satisfy `drop`. -/
def trimChars (drop : Char → Bool) (chars : List Char) : List Char :=
  ((chars.dropWhile drop).reverse.dropWhile drop).reverse

/-- A text without the white space at its ends. -/
def strip (text : String) : String := String.ofList (trimChars isBlank text.toList)

/-- Holds of a text that strips to nothing. -/
def isBlankText (text : String) : Bool := text.toList.all isBlank

/-- The first word of a row of characters, words being separated by white space. -/
def firstWord (chars : List Char) : List Char :=
  (chars.dropWhile isBlank).takeWhile fun c => !isBlank c

/-- Reads words from left to right; `word` holds the last one so far, reversed. -/
private def wordsAfter (word : List Char) : List Char → List (List Char)
  | [] => if word.isEmpty then [] else [word.reverse]
  | c :: rest =>
    if isBlank c then
      if word.isEmpty then wordsAfter [] rest else word.reverse :: wordsAfter [] rest
    else wordsAfter (c :: word) rest

/-- The words of a row of characters. -/
def words (chars : List Char) : List (List Char) := wordsAfter [] chars

/-- The pieces between the occurrences of a character; one more than it occurs. -/
def splitAtChar (separator : Char) : List Char → List (List Char)
  | [] => [[]]
  | c :: rest =>
    if c = separator then [] :: splitAtChar separator rest
    else match splitAtChar separator rest with
      | [] => [[c]]
      | piece :: pieces => (c :: piece) :: pieces

/-- Every occurrence of a character replaced by a row of characters. -/
def replaceChar (target : Char) (replacement : List Char) (chars : List Char) : List Char :=
  chars.flatMap fun c => if c = target then replacement else [c]

/-- Holds when `part` stands somewhere in `chars`. -/
def containsChars (part : List Char) : List Char → Bool
  | [] => part.isEmpty
  | c :: rest => part.isPrefixOf (c :: rest) || containsChars part rest

end DataLayer.Text
