import DataLayer.Query.Terminal
import DataLayer.Schema.Change

/-! The ledger: the table in which applied migrations are recorded, as a database sees it. -/

namespace DataLayer.Migration

variable {σ : Type}

/-- The table of the ledger. -/
def ledgerTable : Value := .text "migrations"

/-- One applied migration. -/
structure Record where
  id : Value
  migration : Value
  createdAt : Value

/-- The columns of the ledger. -/
def describeLedger : Schema.Describe := fun blueprint => do
  let blueprint ← blueprint.addColumn (.text "id") (.columnType .increments) .null
  let blueprint ← blueprint.addColumn (.text "migration") (.columnType .string)
    (.int Dialect.defaultLength)
  let blueprint ← blueprint.addColumn (.text "created_at") (.columnType .datetime) .null
  blueprint.modifyLast "nullable" .nullable

/-- Makes the ledger unless it is there. -/
def ensureLedger (db : Database σ) : Action σ Unit := do
  let _ ← Schema.create db ledgerTable describeLedger

/-- The query for the whole ledger, oldest record first. -/
def ledgerQuery : Query where
  table := ledgerTable
  selection := .text "id, migration, created_at"
  order := some "ORDER BY id ASC"

/-- The value in a column of a row. -/
def cell (row : Row) (column : String) : Except Misuse Value :=
  match Entries.get? column row with
  | some value => .ok value
  | none => .error (.noSuchKey (.text column))

/-- A row of the ledger as a record. -/
def recordOf (row : Row) : Except Misuse Record := do
  return { id := ← cell row "id", migration := ← cell row "migration",
           createdAt := ← cell row "created_at" }

/-- The applied migrations, oldest first. -/
def records (db : Database σ) : Action σ (List Record) := do
  match ← ledgerQuery.finish db .get with
  | .rows rows => Action.check (rows.mapM recordOf)
  | _ => return []

/-- Records that a file was applied. -/
def recordFile (db : Database σ) (file : String) : Action σ Unit := do
  let row : Value :=
    .map [(.text "migration", .text file), (.text "created_at", .text db.now.ledgerText)]
  let _ ← Query.finish db { table := ledgerTable } (.insert row)

/-- Takes back a record. -/
def eraseRecord (db : Database σ) (id : Value) : Action σ Unit := do
  let query := ({ table := ledgerTable : Query }).compare (.text "id") (.text "=") id
  let _ ← query.finish db .delete

end DataLayer.Migration
