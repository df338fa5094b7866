import DataLayer.Dialect
import DataLayer.Fault.Basic
import DataLayer.Schema.Literal
import DataLayer.Value.Name

/-! Columns of a table as they are declared: a name, a type, and modifiers in the order in which
they were given. -/

namespace DataLayer.Schema

/-- A declared column. `alter` holds when the table exists already, and `changed` when the column
does too. -/
structure Column where
  name : Value
  type : Value
  length : Value := .null
  alter : Bool := false
  modifiers : List String := []
  changed : Bool := false

/-- What can be said about a column after its declaration. -/
inductive Modifier where
  | nullable
  | default (value : Value)
  | unique
  | change

namespace Column

/-- Declares a column. A blank name is refused. -/
def declare (name type length : Value) (alter : Bool) : Except Fault Column := do
  if ← Misuse.lift name.isBlankName then refuse (.of .schema "Column name cannot be empty")
  else return { name, type, length, alter }

/-- Adds a modifier. Only a column of an existing table can be marked as changed. -/
def modify (c : Column) : Modifier → Column
  | .nullable => { c with modifiers := c.modifiers ++ ["NULL"] }
  | .default value => { c with modifiers := c.modifiers ++ ["DEFAULT " ++ literal value] }
  | .unique => { c with modifiers := c.modifiers ++ ["UNIQUE"] }
  | .change => { c with changed := c.changed || c.alter }

/-- The declaration of a column: its name, its type and its modifiers. -/
def definition (dialect : Dialect) (c : Column) : Except Misuse String := do
  let name ← Dialect.quoteIdentifier c.name
  let type ← dialect.columnType c.type c.length
  return " ".intercalate (name :: type :: c.modifiers)

/-- What stands before the declaration of a column in a statement. -/
def lead (c : Column) : String :=
  if c.alter then if c.changed then "MODIFY COLUMN " else "ADD COLUMN " else ""

/-- A column as it stands in a statement. -/
def render (dialect : Dialect) (c : Column) : Except Misuse String :=
  (c.definition dialect).map fun text => c.lead ++ text

/-- A column in one line. Only members of a closed set can be shown as its type. -/
def summary (c : Column) : Except Misuse String :=
  let withType (word : String) : Except Misuse String :=
    .ok ("ColumnDefinition(" ++ c.name.quoted ++ ", " ++ word ++ ")")
  match c.type with
  | .columnType kind => withType kind.word
  | .engineKind kind => withType kind.word
  | other => .error (.noSuchMember other.kindName "value")

end Column
end DataLayer.Schema
