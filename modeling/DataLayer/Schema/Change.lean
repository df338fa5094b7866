import DataLayer.Database.Run
import DataLayer.Schema.Blueprint

/-! Changes of the tables of a database. A description is compiled as a whole before anything is
sent. -/

namespace DataLayer.Schema

variable {σ : Type}

/-- Sends a statement and returns it. -/
def change (db : Database σ) (sql : String) : Action σ String := do
  let _ ← db.execute (.text sql) []
  return sql

/-- The statement that a description of a table compiles to. -/
def compile (dialect : Dialect) (table : Value) (isCreate : Bool) (describe : Describe) :
    Except Fault (Option String) := do
  let blueprint ← Blueprint.start table isCreate dialect
  (← describe blueprint).build

/-- Creates or alters a table from its description. An alteration without content is only
noted. -/
def applyBlueprint (db : Database σ) (table : Value) (isCreate : Bool) (describe : Describe) :
    Action σ (Option String) := do
  match ← Action.ofExcept (compile db.dialect table isCreate describe) with
  | none =>
    Action.note (.noChange table)
    return none
  | some sql => return some (← change db sql)

/-- Creates a table. -/
def create (db : Database σ) (table : Value) (describe : Describe) : Action σ (Option String) :=
  applyBlueprint db table true describe

/-- Alters a table. -/
def alter (db : Database σ) (table : Value) (describe : Describe) : Action σ (Option String) :=
  applyBlueprint db table false describe

/-- Renames a table. -/
def rename (db : Database σ) (source target : Value) : Action σ String := do
  change db (← Action.check (db.dialect.renameTable source target))

/-- Drops a table. -/
def drop (db : Database σ) (table : Value) : Action σ String := do
  change db ("DROP TABLE " ++ (← Action.check (Dialect.quoteIdentifier table)))

/-- Drops a table if there is one. -/
def dropIfExists (db : Database σ) (table : Value) : Action σ String := do
  change db ("DROP TABLE IF EXISTS " ++ (← Action.check (Dialect.quoteIdentifier table)))

/-- Holds when the catalogue has a table. -/
def hasTable (db : Database σ) (table : Value) : Action σ Bool := do
  return (← db.queryOne (.text db.dialect.tableExistsQuery) [table]).isSome

end DataLayer.Schema
