import DataLayer.Text.Digit
import DataLayer.Text.Identifier

/-! The names of migration files and of the tables that migrations create. -/

namespace DataLayer.Migration

open DataLayer.Text

/-- Holds of the letters and digits of the basic script. -/
def isPlain (c : Char) : Bool := c.isAlpha || c.isDigit

/-- Takes a row of digits, of any script. -/
def dropDigits : Nat → List Char → Option (List Char)
  | 0, chars => some chars
  | count + 1, c :: chars => if isDigit c then dropDigits count chars else none
  | _ + 1, [] => none

/-- Takes an underscore. -/
def dropUnderscore : List Char → Option (List Char)
  | '_' :: chars => some chars
  | _ => none

/-- Takes the stamp of a file name: year, month and day, then the time of day, and an underscore
after each. -/
def dropStamp (chars : List Char) : Option (List Char) := do
  let chars ← dropDigits 4 chars >>= dropUnderscore
  let chars ← dropDigits 2 chars >>= dropUnderscore
  let chars ← dropDigits 2 chars >>= dropUnderscore
  dropDigits 6 chars >>= dropUnderscore

/-- Holds of a name followed by the ending of a migration file. A line end after it is
overlooked. -/
def isNameWithEnding : List Char → Bool
  | [] => false
  | c :: chars =>
    let rest := chars.dropWhile fun c => isPlain c || c == '_'
    (c.isAlpha || c == '_') && (rest == ".py".toList || rest == ".py\n".toList)

/-- Holds of the names of migration files. -/
def isFileName (name : String) : Bool :=
  match dropStamp name.toList with
  | some rest => isNameWithEnding rest
  | none => false

/-- Holds of names that a migration can be given. -/
def isUsableName (name : String) : Bool := isIdentifier name && !isReserved name

/-- The file name of a migration. -/
def fileName (stamp name : String) : String := stamp ++ "_" ++ name ++ ".py"

/-- A text without a line end at its end. -/
def withoutLineEnd (chars : List Char) : List Char :=
  if chars.getLast? = some '\n' then chars.dropLast else chars

/-- What stands before an ending. -/
def before? (ending chars : List Char) : Option (List Char) :=
  if ending.isSuffixOf chars then some (chars.take (chars.length - ending.length)) else none

/-- The middle part of `Create…Table` or `Create…Tables`. -/
def createdTable? (name : String) : Option (List Char) := do
  let chars := withoutLineEnd name.toList
  let rest ← if "Create".toList.isPrefixOf chars then some (chars.drop 6) else none
  let table ← (before? "Table".toList rest).or (before? "Tables".toList rest)
  if !table.isEmpty && table.all isPlain then some table else none

/-- Words that start with a capital, in lower case and joined by underscores. -/
def joinedWords : List Char → List Char
  | [] => []
  | c :: chars => c.toLower :: go chars
where
  go : List Char → List Char
    | [] => []
    | c :: chars => if c.isUpper then '_' :: c.toLower :: go chars else c.toLower :: go chars

/-- The table that a migration of this name creates. -/
def tableNameFor (name : String) : String :=
  match createdTable? name with
  | some table => String.ofList (joinedWords table)
  | none => "table_name"

end DataLayer.Migration
