import DataLayer.Value.Same

/-! The ledger as an engine keeps it: rows with an identifier, the name of a migration and the
moment at which it was applied. -/

namespace DataLayer

/-- One row of the ledger. -/
structure LedgerRow where
  id : Value
  migration : Value
  createdAt : Value

/-- A ledger: its rows in the order of insertion, and the largest identifier ever given. -/
structure Ledger where
  rows : List LedgerRow
  largest : Int := 0

namespace Ledger

private def number (value : Value) : Int :=
  match value with
  | .int n => n
  | .bool true => 1
  | _ => 0

/-- A ledger that holds the given rows. -/
def ofRows (rows : List LedgerRow) : Ledger where
  rows
  largest := ((rows.map fun row => number row.id).max?).getD 0

/-- The rows in the order of their identifiers. -/
def sorted (ledger : Ledger) : List LedgerRow :=
  ledger.rows.mergeSort fun first second => number first.id ≤ number second.id

/-- Appends a row under the next identifier, which is returned too. -/
def insert (migration createdAt : Value) (ledger : Ledger) : Int × Ledger :=
  let id := ledger.largest + 1
  (id, { rows := ledger.rows ++ [⟨.int id, migration, createdAt⟩], largest := id })

/-- Takes out the rows of an identifier. -/
def delete (id : Value) (ledger : Ledger) : Ledger :=
  { ledger with rows := ledger.rows.filter fun row => !(row.id == id) }

end Ledger

/-- The statement that reads the whole ledger. -/
def Ledger.selectSql : String := "SELECT id, migration, created_at FROM migrations ORDER BY id ASC"

/-- The statement that records a migration. -/
def Ledger.insertSql : String := "INSERT INTO migrations (migration, created_at) VALUES (?, ?)"

/-- The statement that takes back a record. -/
def Ledger.deleteSql : String := "DELETE FROM migrations WHERE id = ?"

end DataLayer
