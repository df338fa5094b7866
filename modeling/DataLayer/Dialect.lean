import DataLayer.Fault.Misuse
import DataLayer.Text.Blank
import DataLayer.Text.Case

/-! How each engine spells the fragments of a statement. The grammar is shared; an engine differs
only in its counting keys, its table options, the renaming of tables and the look-up of a table in
the catalogue. -/

namespace DataLayer

/-- The spelling of statements for one kind of engine. -/
abbrev Dialect := EngineKind

namespace Dialect

open DataLayer.Text

/-- The characters of a name inside back quotes; a back quote in it is written twice. -/
def quotedNameChars (chars : List Char) : List Char := replaceChar '\x60' ['\x60', '\x60'] chars

/-- A name between back quotes. -/
def quotedName (name : String) : String :=
  String.ofList ('\x60' :: quotedNameChars name.toList ++ ['\x60'])

/-- A name of a table or column between back quotes. Only texts are names. -/
def quoteIdentifier (name : Value) : Except Misuse String :=
  match name.text? with
  | some text => .ok (quotedName text)
  | none =>
    match name with
    | .bytes _ => .error (.unsuitable "a bytes-like object is required, not 'str'")
    | .date _ => .error (.unsuitable "'str' object cannot be interpreted as an integer")
    | .datetime _ => .error (.unsuitable "'str' object cannot be interpreted as an integer")
    | .time _ => .error (.unsuitable "'str' object cannot be interpreted as an integer")
    | other => .error (.noSuchMember other.kindName "replace")

/-- A row of placeholders. -/
def placeholders (count : Nat) : String := ", ".intercalate (List.replicate count "?")

/-- The length of a text column that is declared without one. -/
def defaultLength : Nat := 255

/-- The spelling that the engines share for the type of a column. A text column has a length. -/
def sharedType (kind : ColumnType) (length : Value) : String :=
  match kind with
  | .increments => "INT AUTO_INCREMENT PRIMARY KEY"
  | .integer => "INT"
  | .string =>
    "VARCHAR(" ++ (if length.isTruthy then length.display else decimal defaultLength) ++ ")"
  | .text => "TEXT"
  | .date => "DATE"
  | .datetime => "DATETIME"
  | .time => "TIME"
  | .boolean => "TINYINT(1)"

/-- The spelling of a column type, given as a member of the closed set or as its word. The
embedded engine has a spelling of its own for the counting member only, not for its word. -/
def columnType (dialect : Dialect) (kind length : Value) : Except Misuse String :=
  match dialect, kind with
  | .sqlite, .columnType .increments => .ok "INTEGER PRIMARY KEY AUTOINCREMENT"
  | _, _ =>
    match kind.text?.bind ColumnType.ofText? with
    | some member => .ok (sharedType member length)
    | none => .error (.unreadable ("Unsupported column type: " ++ kind.quoted))

/-- What stands between the closing parenthesis of a table and its end. -/
def tableOptions : Dialect → String
  | .mysql => "ENGINE=InnoDB DEFAULT CHARSET=utf8mb4"
  | .sqlite => ""

/-- The statement that renames a table. -/
def renameTable (dialect : Dialect) (source target : Value) : Except Misuse String := do
  let source ← quoteIdentifier source
  let target ← quoteIdentifier target
  match dialect with
  | .mysql => .ok ("RENAME TABLE " ++ source ++ " TO " ++ target)
  | .sqlite => .ok ("ALTER TABLE " ++ source ++ " RENAME TO " ++ target)

/-- The query that yields a row when the table named by its parameter exists. -/
def tableExistsQuery : Dialect → String
  | .mysql => "SELECT TABLE_NAME FROM INFORMATION_SCHEMA.TABLES "
      ++ "WHERE TABLE_SCHEMA = DATABASE() AND TABLE_NAME = ?"
  | .sqlite => "SELECT name FROM sqlite_master WHERE type='table' AND name = ?"

/-- The dialect of a word, whatever its case. -/
def ofWord? (word : String) : Option Dialect :=
  let key := lower word
  if key = "mysql" then some .mysql
  else if key = "sqlite" then some .sqlite
  else none

/-- The dialect that a value names. -/
def find (name : Value) : Except Misuse Dialect :=
  match name.text? with
  | none => .error (.noSuchMember name.kindName "value")
  | some word =>
    match ofWord? word with
    | some dialect => .ok dialect
    | none => .error (.unreadable
        ("Unknown dialect '" ++ name.display ++ "'. Supported: ['mysql', 'sqlite']"))

end Dialect
end DataLayer
