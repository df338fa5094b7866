import DataLayer.Text.WordTable

/-! The characters of words: letters and numbers of every script, and the underscore. -/

namespace DataLayer.Text

/-- Holds of the characters of words. -/
def isWordChar (c : Char) : Bool :=
  if c.toNat < 128 then c == '_' || c.isAlphanum
  else wordRanges.any fun range => range.1 ≤ c.toNat && c.toNat ≤ range.2

end DataLayer.Text
