import DataLayer.Script.Schema

/-! Source files: the modules in which migrations and seeders are written.

A module binds names one after the other: classes of its own, classes from elsewhere, values, and
further names for what is bound already. -/

namespace DataLayer.Source

open DataLayer.Script

/-- Rows that are inserted into a table unless there is a row with the same key already. -/
structure Baseline where
  table : String
  key : String
  rows : List (List (String × Value))

/-- What a seeder does. -/
inductive Routine where
  | steps (steps : List DatabaseStep)
  | baseline (baseline : Baseline)

/-- A class as it is written: its base and the methods that it has itself. -/
structure ClassText where
  name : String
  base : String := "Migration"
  up : Option (List SchemaStep) := none
  down : Option (List SchemaStep) := none
  run : Option Routine := none
  /-- What its constructor raises. -/
  refusal : Option Fault := none

/-- A module as it is written. -/
structure ModuleText where
  classes : List ClassText := []
  /-- Complete classes from elsewhere, with the base of each. -/
  foreign : List (String × String) := []
  /-- Names bound to values that are no classes. -/
  values : List (String × Value) := []
  aliases : List (String × String) := []
  /-- What the module raises at its end. -/
  failure : Option Fault := none

/-- A source file: a module, or the text that a new migration of some name starts with. -/
inductive File where
  | module (text : ModuleText)
  | template (name : String)

end DataLayer.Source
