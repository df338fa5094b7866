import DataLayer.Text.Blank
import DataLayer.Value.Text

/-! What can be wrong with a value that an operation is handed, and how it is complained about. -/

namespace DataLayer

/-- A value in a place that cannot take it. -/
inductive Misuse where
  /-- The value is of the wrong kind. -/
  | unsuitable (complaint : String)
  /-- Values of this kind have no such member. -/
  | noSuchMember (kind member : String)
  /-- The member asked for belongs to the class and not to its instances. -/
  | noSuchSetting (owner name : String)
  | noSuchKey (key : Value)
  | outOfRange (complaint : String)
  | unreadable (complaint : String)
  | tooLarge (complaint : String)
  | dividedByZero
  | unboundName (name : String)
  /-- A closing tag of marked-up text closes nothing. -/
  | strayTag (complaint : String)
  /-- A file or directory of this name stands in the way. -/
  | fileExists (path : String)
  | notADirectory (path : String)
  | isADirectory (path : String)
  | nameTooLong (path : String)
  | noSuchFile (path : String)
  /-- A setting cannot be looked for. -/
  | unsoughtSetting (name : String)
  /-- Something is nested more deeply than it can be followed. -/
  | tooDeep

namespace Misuse

open DataLayer.Text

private def systemText (number : Nat) (reason path : String) : String :=
  "[Errno " ++ decimal number ++ "] " ++ reason ++ ": " ++ Text.quoted path

/-- The text of a complaint. -/
def text : Misuse → String
  | .unsuitable complaint => complaint
  | .noSuchMember kind member =>
    "'" ++ kind ++ "' object has no attribute '" ++ member ++ "'"
  | .noSuchSetting owner name => "module '" ++ owner ++ "' has no attribute '" ++ name ++ "'"
  | .noSuchKey key => key.quoted
  | .outOfRange complaint => complaint
  | .unreadable complaint => complaint
  | .tooLarge complaint => complaint
  | .dividedByZero => "division by zero"
  | .unboundName name => "name '" ++ name ++ "' is not defined"
  | .strayTag complaint => complaint
  | .fileExists path => systemText 17 "File exists" path
  | .notADirectory path => systemText 20 "Not a directory" path
  | .isADirectory path => systemText 21 "Is a directory" path
  | .nameTooLong path => systemText 36 "File name too long" path
  | .noSuchFile path => systemText 2 "No such file or directory" path
  | .unsoughtSetting name =>
    "error getting value for field \"" ++ name ++ "\" from source \"EnvSettingsSource\""
  | .tooDeep => "maximum recursion depth exceeded while calling a Python object"

/-- The complaint about a value that is no path. -/
def noPath (value : Value) : Misuse :=
  let kind := (splitAtChar '.' value.kindName.toList).getLast?.getD []
  .unsuitable ("expected str, bytes or os.PathLike object, not " ++ String.ofList kind)

/-- The complaint about a value that yields nothing one by one. -/
def notIterable (value : Value) : Misuse :=
  .unsuitable ("'" ++ value.kindName ++ "' object is not iterable")

end Misuse

namespace Value

/-- What a value yields one by one, or the complaint that it does not. -/
def elements (value : Value) : Except Misuse (List Value) :=
  match value.elements? with
  | some items => .ok items
  | none => .error (.notIterable value)

/-- The texts of a row of values joined by a separator. Each of them must be or stand in for a
text; `position` counts from the first. -/
def joinTexts (separator : String) (items : List Value) : Except Misuse String :=
  go 0 items |>.map separator.intercalate
where
  go (position : Nat) : List Value → Except Misuse (List String)
    | [] => .ok []
    | item :: rest =>
      match item.text? with
      | some word => (go (position + 1) rest).map (word :: ·)
      | none => .error (.unsuitable ("sequence item " ++ Text.decimal position
          ++ ": expected str instance, " ++ item.kindName ++ " found"))

end Value
end DataLayer
