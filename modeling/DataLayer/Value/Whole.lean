import DataLayer.Fault.Misuse
import DataLayer.Text.Blank

/-! Whole numbers read from values. -/

namespace DataLayer

open DataLayer.Text

/-- What a row of characters says about a whole number. -/
inductive Text.WholeReading where
  | number (value : Int)
  /-- More digits than are read. -/
  | tooMany (digits : Nat)
  | nothing

/-- The most digits that a whole number is read from. -/
def Text.mostDigits : Nat := 4300

/-- Reads the digits of a number, single underscores being allowed between two of them. Too many
digits are noticed before what follows them. -/
def Text.readDigits (sign : Int) (chars : List Char) : WholeReading :=
  let row := chars.takeWhile fun c => c == '_' || (digitValue? c).isSome
  let digits := row.filterMap digitValue?
  if row.isEmpty || row.head? = some '_' || row.getLast? = some '_'
      || containsChars ['_', '_'] row then .nothing
  else if mostDigits < digits.length then .tooMany digits.length
  else if row.length < chars.length then .nothing
  else .number (sign * Int.ofNat (numberOf digits))

/-- Reads a whole number with an optional sign, white space around it being left out. -/
def Text.readWhole (isSpace : Char → Bool) (chars : List Char) : WholeReading :=
  match trimChars isSpace chars with
  | '-' :: rest => readDigits (-1) rest
  | '+' :: rest => readDigits 1 rest
  | rest => readDigits 1 rest

namespace Value

/-- The most characters of a value that a complaint about it shows. -/
def shownLength : Nat := 200

private def readNumber (isSpace : Char → Bool) (value : Value) (chars : List Char) :
    Except Misuse Int :=
  match readWhole isSpace chars with
  | .number n => .ok n
  | .tooMany digits => .error (.unreadable ("Exceeds the limit (" ++ Text.decimal mostDigits
      ++ " digits) for integer string conversion: value has " ++ Text.decimal digits
      ++ " digits; use sys.set_int_max_str_digits() to increase the limit"))
  | .nothing => .error (.unreadable ("invalid literal for int() with base 10: "
      ++ String.ofList (value.quoted.toList.take shownLength)))

/-- Holds of the blanks among bytes, read as characters. -/
def isByteSpace (c : Char) : Bool := isBlankByte (UInt8.ofNat c.toNat)

/-- The whole number that a value is or spells; fractions are cut off towards zero. -/
def whole (value : Value) : Except Misuse Int :=
  match value with
  | .bool value => .ok (if value then 1 else 0)
  | .int value => .ok value
  | .float x =>
    match x.reading with
    | .finite negative magnitude scale => .ok (Binary64.truncated negative magnitude scale)
    | .infinite _ => .error (.tooLarge "cannot convert float infinity to integer")
    | .undefined => .error (.unreadable "cannot convert float NaN to integer")
  | .decimal d =>
    match d with
    | .finite negative digits exponent => .ok (Decimal.truncated negative digits exponent)
    | .infinite _ => .error (.tooLarge "cannot convert Infinity to integer")
    | .undefined _ _ _ => .error (.unreadable "cannot convert NaN to integer")
  | .text s => readNumber isNumberSpace value s.toList
  | .columnType kind => readNumber isNumberSpace value kind.word.toList
  | .engineKind kind => readNumber isNumberSpace value kind.word.toList
  | .bytes row => readNumber isByteSpace value (row.map fun byte => Char.ofNat byte.toNat)
  | other => .error (.unsuitable ("int() argument must be a string, a bytes-like object or a "
      ++ "real number, not '" ++ other.kindName ++ "'"))

end Value
end DataLayer
