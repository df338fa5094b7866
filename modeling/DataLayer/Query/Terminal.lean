import DataLayer.Database.Run
import DataLayer.Query.Compile
import DataLayer.Value.Whole

/-! Ending a query: its statement is compiled, sent, and its answer read. Nothing is sent when the
query cannot be compiled. -/

namespace DataLayer.Query

variable {σ : Type}

/-- What a query ends with. -/
inductive Ending where
  | rows (rows : List Row)
  | row (row : Option Row)
  | flag (value : Bool)
  | id (value : Value)

/-- Holds when the count in a row is positive. Without a row, or with an empty one, nothing was
counted. -/
def countsSome (row : Option Row) : Except Misuse Bool :=
  match row with
  | none => .ok false
  | some [] => .ok false
  | some row =>
    match Entries.get? "count" row with
    | none => .error (.noSuchKey (.text "count"))
    | some count => (count.whole).map fun n => 0 < n

/-- Sends a compiled statement. A change of every row is announced first. -/
def send (db : Database σ) (q : Query) (prepared : Prepared) : Action σ Statement := do
  match prepared.unscoped with
  | some operation => Action.note (.unscopedWrite operation q.table)
  | none => pure ()
  db.run (.text prepared.sql) prepared.params

/-- Ends a query. -/
def finish (db : Database σ) (q : Query) (terminal : Query.Terminal) : Action σ Ending := do
  let prepared ← Action.ofExcept (q.prepare terminal)
  let statement ← send db q prepared
  match terminal with
  | .get => return .rows statement.rows
  | .first => return .row statement.rows.head?
  | .exists => return .flag (← Action.check (countsSome statement.rows.head?))
  | .insert _ => return .id statement.lastrowid
  | .update _ => return .flag true
  | .delete => return .flag true

end DataLayer.Query
