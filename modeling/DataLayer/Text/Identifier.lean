import DataLayer.Text.IdentifierTable

/-! Which texts are identifiers, and which of those are reserved. -/

namespace DataLayer.Text

private def inRanges (ranges : List (Nat × Nat)) (c : Char) : Bool :=
  ranges.any fun range => range.1 ≤ c.toNat && c.toNat ≤ range.2

/-- Holds of a character that may start an identifier. -/
def isIdentifierStart (c : Char) : Bool := inRanges identifierStarts c

/-- Holds of a character that may stand inside an identifier. -/
def isIdentifierChar (c : Char) : Bool := inRanges identifierContinues c

/-- Holds of a letter, a letter of any other script or an underscore, followed by any number of
these, digits and marks. -/
def isIdentifier (text : String) : Bool :=
  match text.toList with
  | [] => false
  | c :: rest => isIdentifierStart c && rest.all isIdentifierChar

/-- The words that may not name a class. -/
def reservedWords : List String :=
  ["False", "None", "True", "and", "as", "assert", "async", "await", "break", "class",
    "continue", "def", "del", "elif", "else", "except", "finally", "for", "from", "global",
    "if", "import", "in", "is", "lambda", "nonlocal", "not", "or", "pass", "raise", "return",
    "try", "while", "with", "yield"]

/-- Holds of a word that may not name a class. -/
def isReserved (text : String) : Bool := reservedWords.contains text

end DataLayer.Text
