import DataLayer.Calendar.Basic
import DataLayer.Number.Binary64
import DataLayer.Number.Decimal

/-! The values that travel between callers, statements and the engine.

Column types and engine kinds are members of closed sets. A member stands in for the text of its
name wherever a text is wanted, but is shown by its own name. -/

namespace DataLayer

/-- The closed set of types that a column can be declared with. -/
inductive ColumnType where
  | increments | integer | string | text | date | datetime | time | boolean
deriving DecidableEq, Repr

/-- The engines that a database can be kept on. -/
inductive EngineKind where
  | mysql | sqlite
deriving DecidableEq, Repr

namespace ColumnType

/-- Every column type, in the order of declaration. -/
def all : List ColumnType :=
  [.increments, .integer, .string, .text, .date, .datetime, .time, .boolean]

/-- The word that a column type stands in for. -/
def word : ColumnType → String
  | .increments => "increments"
  | .integer => "integer"
  | .string => "string"
  | .text => "text"
  | .date => "date"
  | .datetime => "datetime"
  | .time => "time"
  | .boolean => "boolean"

/-- The name that a column type is shown by. -/
def label : ColumnType → String
  | .increments => "ColumnType.INCREMENTS"
  | .integer => "ColumnType.INTEGER"
  | .string => "ColumnType.STRING"
  | .text => "ColumnType.TEXT"
  | .date => "ColumnType.DATE"
  | .datetime => "ColumnType.DATETIME"
  | .time => "ColumnType.TIME"
  | .boolean => "ColumnType.BOOLEAN"

/-- The column type that a text stands for. -/
def ofText? (text : String) : Option ColumnType := all.find? fun kind => kind.word == text

end ColumnType

namespace EngineKind

/-- The word that an engine kind stands in for. -/
def word : EngineKind → String
  | .mysql => "mysql"
  | .sqlite => "sqlite"

/-- The name that an engine kind is shown by. -/
def label : EngineKind → String
  | .mysql => "DatabaseType.MYSQL"
  | .sqlite => "DatabaseType.SQLITE"

end EngineKind

/-- A value. The entries of a map keep the order in which their keys were first put. -/
inductive Value where
  | null
  | bool (value : Bool)
  | int (value : Int)
  | float (value : Binary64)
  | text (value : String)
  | bytes (value : List UInt8)
  | list (items : List Value)
  | tuple (items : List Value)
  | map (entries : List (Value × Value))
  | decimal (value : Decimal)
  | date (value : Date)
  | datetime (value : Moment)
  | time (value : Time)
  | columnType (value : ColumnType)
  | engineKind (value : EngineKind)
deriving Inhabited, Repr

namespace Value

/-- The text that a value is or stands in for. -/
def text? : Value → Option String
  | .text value => some value
  | .columnType value => some value.word
  | .engineKind value => some value.word
  | _ => none

/-- Holds of the values that count as something: not nothing, not false, not zero, not empty. -/
def isTruthy : Value → Bool
  | .null => false
  | .bool value => value
  | .int value => value != 0
  | .float value => !value.isZero
  | .text value => value != ""
  | .bytes value => !value.isEmpty
  | .list items => !items.isEmpty
  | .tuple items => !items.isEmpty
  | .map entries => !entries.isEmpty
  | .decimal value => !value.isZero
  | .date _ => true
  | .datetime _ => true
  | .time _ => true
  | .columnType _ => true
  | .engineKind _ => true

/-- What a value yields one by one: the characters of a text, the numbers of bytes, the items of
a list, the keys of a map. The other values yield nothing at all. -/
def elements? : Value → Option (List Value)
  | .text value => some (value.toList.map fun c => .text (String.ofList [c]))
  | .columnType value => some (value.word.toList.map fun c => .text (String.ofList [c]))
  | .engineKind value => some (value.word.toList.map fun c => .text (String.ofList [c]))
  | .bytes value => some (value.map fun byte => .int byte.toNat)
  | .list items => some items
  | .tuple items => some items
  | .map entries => some (entries.map Prod.fst)
  | _ => none

/-- The name of the kind of a value, as complaints give it. -/
def kindName : Value → String
  | .null => "NoneType"
  | .bool _ => "bool"
  | .int _ => "int"
  | .float _ => "float"
  | .text _ => "str"
  | .bytes _ => "bytes"
  | .list _ => "list"
  | .tuple _ => "tuple"
  | .map _ => "dict"
  | .decimal _ => "decimal.Decimal"
  | .date _ => "datetime.date"
  | .datetime _ => "datetime.datetime"
  | .time _ => "datetime.time"
  | .columnType _ => "ColumnType"
  | .engineKind _ => "DatabaseType"

/-- Holds of the blanks among bytes. -/
def isBlankByte (byte : UInt8) : Bool :=
  byte == 32 || (9 ≤ byte && byte ≤ 13)

end Value
end DataLayer
