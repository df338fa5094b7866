import DataLayer.Fault.Basic
import DataLayer.Folder.Path
import DataLayer.Text.Case
import DataLayer.Text.Digit
import DataLayer.Text.Blank

/-! What settings accept: texts, whole numbers, truth values, paths and words of a closed set.
Values of other kinds are brought into form where that loses nothing, and refused otherwise. -/

namespace DataLayer.Settings

open DataLayer.Text

/-- A checked value, or everything that is wrong. -/
abbrev Checked (α : Type) := Except (List SettingIssue) α

/-- Hands a checked value to a checked function; what is wrong with either is kept. -/
def gather {α β : Type} (f : Checked (α → β)) (x : Checked α) : Checked β :=
  match f, x with
  | .ok f, .ok x => .ok (f x)
  | .ok _, .error issues => .error issues
  | .error issues, .ok _ => .error issues
  | .error issues, .error more => .error (issues ++ more)

/-- Refuses the value of a setting. -/
def refused {α : Type} (location rule message : String) : Checked α :=
  .error [{ location, rule, message }]

/-- The text that bytes spell in the common encoding. -/
def decoded? (row : List UInt8) : Option String :=
  String.fromUTF8? (ByteArray.mk row.toArray)

/-- A text. -/
def checkText (location : String) (value : Value) : Checked String :=
  match value.text? with
  | some word => .ok word
  | none =>
    match value with
    | .bytes row =>
      match decoded? row with
      | some word => .ok word
      | none => refused location "string_unicode"
          "Input should be a valid string, unable to parse raw data as a unicode string"
    | _ => refused location "string_type" "Input should be a valid string"

/-- What is left of a number without the zeros before it. Underscores may stand between these, one
at a time. A minus counts as the start of the number, also after zeros; of zeros before a point the
last one stays. -/
def withoutLeadingZeros? : List Char → Option (List Char)
  | [] => none
  | c :: rest =>
    if c = '0' then afterZero c rest
    else if c = '-' || c.isDigit then some (c :: rest)
    else none
where
  afterZero (before : Char) : List Char → Option (List Char)
    | [] => some [before]
    | c :: rest =>
      if c = '0' || (c = '_' && before != '_') then afterZero c rest
      else if c = '-' || c.isDigit then some (c :: rest)
      else if c = '.' then some (before :: c :: rest)
      else none

/-- A number without a fraction of zeros. -/
def withoutZeroFraction (chars : List Char) : List Char :=
  let whole := chars.takeWhile (· != '.')
  let fraction := chars.drop (whole.length + 1)
  if !fraction.isEmpty && fraction.all (· == '0') then whole else chars

/-- A number without the single underscores in it. -/
def withoutUnderscores? (chars : List Char) : Option (List Char) :=
  let doubled := containsChars ['_', '_'] chars
  if chars.head? = some '_' || chars.getLast? = some '_' || doubled then none
  else some (chars.filter (· != '_'))

/-- The digits of a number with their sign, all else being left out. -/
def numberText? (text : String) : Option (List Char) := do
  let chars := trimChars isNumberSpace text.toList
  let chars ← match chars with
    | '+' :: '-' :: _ => none
    | '+' :: rest => some rest
    | rest => some rest
  let chars ← withoutLeadingZeros? chars
  withoutUnderscores? (withoutZeroFraction chars)

/-- The number that digits without needless zeros spell. -/
def plainNumber? (digits : List Char) : Option Nat :=
  if digits = ['0'] then some 0
  else if !digits.isEmpty && digits.all Char.isDigit && digits.head? != some '0' then
    some (numberOf (digits.map fun c => c.toNat - 48))
  else none

/-- The most digits that a whole number is read from. -/
def longestWhole : Nat := 4300

private def tooLong {α : Type} (location : String) : Checked α :=
  refused location "int_parsing_size"
    "Unable to parse input string as an integer, exceeded maximum size"

private def wholeFromText (location text : String) : Checked Int :=
  let number? (digits : List Char) : Option Nat :=
    if digits.length ≤ longestWhole then plainNumber? digits
    else if digits.all Char.isDigit then some 0
    else none
  let spelled? : Option (Int × Nat) := do
    match ← numberText? text with
    | '-' :: digits => some (-(Int.ofNat (← number? digits)), digits.length)
    | digits => some (Int.ofNat (← number? digits), digits.length)
  match spelled? with
  | some (n, size) => if size ≤ longestWhole then .ok n else tooLong location
  | none => refused location "int_parsing"
      "Input should be a valid integer, unable to parse string as an integer"

/-- Holds of the whole numbers that a word of 64 bits holds with its sign. -/
def isWord (n : Int) : Bool := n.natAbs < twoTo 63

private def fractional {α : Type} (location : String) : Checked α :=
  refused location "int_from_float"
    "Input should be a valid integer, got a number with a fractional part"

private def notFinite {α : Type} (location : String) : Checked α :=
  refused location "finite_number" "Input should be a finite number"

/-- A whole number. -/
def checkWhole (location : String) (value : Value) : Checked Int :=
  match value.text? with
  | some word => wholeFromText location word
  | none =>
    match value with
    | .bool truth => .ok (if truth then 1 else 0)
    | .int n => .ok n
    | .bytes row => wholeFromText location ((decoded? row).getD "?")
    | .float x =>
      match x.reading with
      | .finite negative magnitude scale =>
        let n := Binary64.truncated negative magnitude scale
        if !Binary64.isWhole magnitude scale then fractional location
        else if isWord n then .ok n
        else tooLong location
      | _ => notFinite location
    | .decimal d =>
      match d with
      | .finite negative digits exponent =>
        let n := Decimal.truncated negative digits exponent
        if d.equalsInt n then .ok n else fractional location
      | _ => notFinite location
    | _ => refused location "int_type" "Input should be a valid integer"

/-- The words for yes. -/
def yesWords : List String := ["1", "on", "t", "true", "y", "yes"]

/-- The words for no. -/
def noWords : List String := ["0", "off", "f", "false", "n", "no"]

private def unclear {α : Type} (location : String) : Checked α :=
  refused location "bool_parsing"
    "Input should be a valid boolean, unable to interpret input"

private def noTruth {α : Type} (location : String) : Checked α :=
  refused location "bool_type" "Input should be a valid boolean"

private def truthFromText (location text : String) : Checked Bool :=
  let word := String.ofList (text.toList.map Char.toLower)
  if yesWords.contains word then .ok true
  else if noWords.contains word then .ok false
  else unclear location

private def truthFromWhole (location : String) (n : Int) : Checked Bool :=
  if n = 1 then .ok true
  else if n = 0 then .ok false
  else if isWord n then unclear location
  else noTruth location

/-- A truth value: its words in any case, or one and zero. -/
def checkTruth (location : String) (value : Value) : Checked Bool :=
  match value.text? with
  | some word => truthFromText location word
  | none =>
    match value with
    | .bool truth => .ok truth
    | .int n => truthFromWhole location n
    | .bytes row => truthFromText location ((decoded? row).getD "?")
    | .float x =>
      match x.reading with
      | .finite negative magnitude scale =>
        if Binary64.isWhole magnitude scale then
          truthFromWhole location (Binary64.truncated negative magnitude scale)
        else noTruth location
      | _ => noTruth location
    | .decimal d =>
      match d with
      | .finite negative digits exponent =>
        let n := Decimal.truncated negative digits exponent
        if d.equalsInt n then truthFromWhole location n else noTruth location
      | _ => noTruth location
    | _ => noTruth location

/-- A path. -/
def checkPath (location : String) (value : Value) : Checked Path :=
  match value.text? with
  | some word => .ok (Path.ofText word)
  | none => refused location "path_type" "Input is not a valid path for <class 'pathlib.Path'>"

/-- The kind of an engine, by its exact word. -/
def checkEngine (location : String) (value : Value) : Checked EngineKind :=
  match value.text? with
  | some "mysql" => .ok .mysql
  | some "sqlite" => .ok .sqlite
  | _ => refused location "literal_error" "Input should be 'mysql' or 'sqlite'"

end DataLayer.Settings
