import DataLayer.Schema.Column

/-! Blueprints: tables described column by column, compiled to one statement.

A blueprint creates a table or alters one. In a statement that creates, columns stand bare; in one
that alters, each is added or modified, and the commands of the table follow. -/

namespace DataLayer.Schema

open DataLayer.Text

/-- A table as it is described so far. -/
structure Blueprint where
  table : Value
  isCreate : Bool
  dialect : Dialect
  columns : List Column := []
  commands : List String := []

namespace Blueprint

/-- Starts the description of a table. -/
def start (table : Value) (isCreate : Bool) (dialect : Dialect) : Except Fault Blueprint := do
  if ← Misuse.lift table.isBlankName then
    refuse (.of .schema "A blueprint needs a table name")
  else return { table, isCreate, dialect }

/-- Adds a column at the end. -/
def addColumn (b : Blueprint) (name type length : Value) : Except Fault Blueprint := do
  let column ← Column.declare name type length (!b.isCreate)
  return { b with columns := b.columns ++ [column] }

/-- Adds a modifier to the column at a position. -/
def modifyAt (b : Blueprint) (position : Nat) (modifier : Modifier) : Blueprint :=
  { b with columns := b.columns.modify position fun column => column.modify modifier }

/-- Adds whole-number columns that count from zero. -/
def addCounters (b : Blueprint) : List String → Except Fault Blueprint
  | [] => .ok b
  | name :: names => do
    let b ← b.addColumn (.text name) (.columnType .integer) .null
    (b.modifyAt (b.columns.length - 1) (.default (.int 0))).addCounters names

/-- The columns that tell when and by whom a row was made and changed. -/
def timestampNames : List String := ["created_at", "created_by", "updated_at", "updated_by"]

/-- The columns that tell when and by whom a row was deleted. -/
def softDeleteNames : List String := ["deleted_at", "deleted_by"]

/-- Adds a modifier to the column that was added last. -/
def modifyLast (b : Blueprint) (name : String) (modifier : Modifier) : Except Fault Blueprint :=
  if b.columns.isEmpty then
    refuse (.aboutTable .schema (name ++ "() needs a column to decorate; add one first") b.table)
  else .ok (b.modifyAt (b.columns.length - 1) modifier)

/-- Adds the command that drops a column. -/
def dropColumn (b : Blueprint) (name : Value) : Except Misuse Blueprint := do
  let name ← Dialect.quoteIdentifier name
  return { b with commands := b.commands ++ ["DROP COLUMN " ++ name] }

/-- Adds the command that renames a column; its whole type has to be given again. -/
def renameColumn (b : Blueprint) (source target definition : Value) : Except Misuse Blueprint := do
  let source ← Dialect.quoteIdentifier source
  let target ← Dialect.quoteIdentifier target
  let command := "CHANGE COLUMN " ++ source ++ " " ++ target ++ " " ++ definition.display
  return { b with commands := b.commands ++ [command] }

/-- The columns as they stand in a statement. -/
def renderedColumns (b : Blueprint) : Except Misuse (List String) :=
  b.columns.mapM (Column.render b.dialect)

/-- The columns as they stand in a statement, followed by the commands. -/
def fragments (b : Blueprint) : Except Misuse (List String) := do
  return (← b.renderedColumns) ++ b.commands

/-- The statement that creates the table. -/
def createStatement (b : Blueprint) : Except Fault String := do
  if b.columns.isEmpty then
    refuse (.aboutTable .schema "Cannot create a table without columns" b.table)
  else
    let columns ← Misuse.lift b.renderedColumns
    let table ← Misuse.lift (Dialect.quoteIdentifier b.table)
    let options := b.dialect.tableOptions
    return "CREATE TABLE IF NOT EXISTS " ++ table ++ " (" ++ ", ".intercalate columns ++ ")"
      ++ (if options = "" then "" else " " ++ options) ++ ";"

/-- The statement that alters the table, if there is anything to alter. -/
def alterStatement (b : Blueprint) : Except Fault (Option String) := do
  match ← Misuse.lift b.fragments with
  | [] => return none
  | fragments =>
    let table ← Misuse.lift (Dialect.quoteIdentifier b.table)
    return some ("ALTER TABLE " ++ table ++ " " ++ ", ".intercalate fragments ++ ";")

/-- The statement that the description compiles to, if there is anything to do. -/
def build (b : Blueprint) : Except Fault (Option String) :=
  if b.isCreate then b.createStatement.map some else b.alterStatement

/-- A blueprint in one line. -/
def summary (b : Blueprint) : String :=
  "Blueprint(" ++ b.table.quoted ++ ", mode=" ++ (if b.isCreate then "create" else "alter")
    ++ ", columns=" ++ decimal b.columns.length ++ ", commands=" ++ decimal b.commands.length
    ++ ")"

end Blueprint

/-- What fills in the description of a table. -/
abbrev Describe := Blueprint → Except Fault Blueprint

end DataLayer.Schema
