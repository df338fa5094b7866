import DataLayer.Text.Blank
import DataLayer.Value.Text

/-! The literals that stand after `DEFAULT` in the declaration of a column. -/

namespace DataLayer.Schema

open DataLayer.Text

/-- A text between single quotes; a quote in it is written twice. -/
def textLiteral (text : String) : String :=
  String.ofList ('\x27' :: replaceChar '\x27' ['\x27', '\x27'] text.toList ++ ['\x27'])

/-- The literal of a value: nothing and truth values by their own words, numbers as they are, and
everything else as a text. -/
def literal : Value → String
  | .null => "NULL"
  | .bool true => "1"
  | .bool false => "0"
  | .int value => signedDecimal value
  | .float value => value.text
  | value => textLiteral value.display

end DataLayer.Schema
