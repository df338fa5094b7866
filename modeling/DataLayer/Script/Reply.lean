import DataLayer.Database.Run
import DataLayer.Fault.Basic

/-! What the steps of a script answer. -/

namespace DataLayer.Script

/-- An answer. A column is told by its one-line form, which it may lack. -/
inductive Reply where
  | value (value : Value)
  | builder
  | blueprint
  | column (summary : Except Misuse String)
  | statement (statement : Statement)
  /-- The handle of a connection, which cannot be written down. -/
  | connection
  | list (items : List Reply)

namespace Reply

/-- The answer of a step that has none. -/
def nothing : Reply := .value .null

/-- A text as an answer. -/
def text (word : String) : Reply := .value (.text word)

/-- A truth value as an answer. -/
def flag (truth : Bool) : Reply := .value (.bool truth)

/-- Texts as an answer. -/
def texts (words : List String) : Reply := .value (.list (words.map Value.text))

/-- Rows as an answer. -/
def rows (rows : List Row) : Reply := .value (.list (rows.map Row.toValue))

end Reply

end DataLayer.Script
