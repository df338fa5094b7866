import DataLayer.Database.Connect

/-! Running statements: one cursor for each, rows mapped by column names, a commit when all went
well and a rollback when the engine complained. -/

namespace DataLayer

/-- A row of a result: values by column names. -/
abbrev Row := List (String × Value)

/-- What came of one statement. -/
structure Statement where
  rows : List Row := []
  rowcount : Value := .int (-1)
  lastrowid : Value := .null

/-- A row by the names of its columns. It ends with the shorter of the two; of columns that share
a name the last one counts. -/
def Row.ofColumns (columns : List String) (values : List Value) : Row :=
  Entries.putAll [] (columns.zip values)

/-- The row as a value. -/
def Row.toValue (row : Row) : Value := .map (row.map fun entry => (.text entry.1, entry.2))

namespace Database

open DataLayer.Text

variable {σ : Type}

/-- The leading words of the statements that yield rows. -/
def rowKeywords : List String :=
  ["SELECT", "WITH", "VALUES", "SHOW", "DESCRIBE", "DESC", "EXPLAIN", "PRAGMA"]

/-- Holds of what may stand before the leading word of a statement. -/
def isLead (c : Char) : Bool := c == ' ' || c == '\t' || c == '\r' || c == '\n' || c == '('

/-- Holds of statements that yield rows, which their leading word tells. A statement that has
only uncommon white space has no leading word at all. -/
def returnsRows (sql : String) : Except Misuse Bool :=
  match sql.toList.dropWhile isLead with
  | [] => .ok false
  | chars =>
    match firstWord chars with
    | [] => .error (.outOfRange "list index out of range")
    | word => .ok (rowKeywords.contains (upper (String.ofList word)))

/-- Holds of values that are statements which yield rows. -/
def returnsRowsValue (sql : Value) : Except Misuse Bool :=
  match sql.text? with
  | some word => returnsRows word
  | none =>
    match sql with
    | .bytes _ => .error (.unsuitable "a bytes-like object is required, not 'str'")
    | other => .error (.noSuchMember other.kindName "lstrip")

/-- Opens the connection unless a handle is held. -/
def ensureHandle (db : Database σ) : Action σ Unit := do
  if !(← get).held then connect db

/-- Runs a statement on the open cursor, fetches its rows if it has any, and commits. -/
def perform (db : Database σ) (sql : Value) (params : List Value) :
    ExceptT EngineFault (StateM (Session σ)) Statement := do
  let answer ← ExceptT.mk (Session.send (.execute sql params) (db.driver.execute sql params))
  let rows ←
    if answer.columns.isEmpty then pure []
    else ExceptT.mk (Session.send .fetchAll db.driver.fetchAll)
  ExceptT.mk (Session.send .commit db.driver.commit)
  return { rows := rows.map (Row.ofColumns answer.columns), rowcount := answer.rowcount,
           lastrowid := answer.lastrowid }

/-- The report on a statement that the engine complained about. Its words are shown only where
errors are exposed. -/
def statementReport (db : Database σ) (sql : Value) (fault : EngineFault) : Report where
  kind := if fault.kind = .integrity then .integrity else .query
  message := .text (if db.exposeErrors.isTruthy then fault.message else Report.genericMessage)
  context := { sql }
  cause := some (.words fault.message)
  engineMessage := .text fault.message

/-- Runs one statement and commits. -/
def run (db : Database σ) (sql : Value) (params : List Value) : Action σ Statement := do
  ensureHandle db
  let prepared := db.kind = .mysql && !params.isEmpty
  match ← Action.ofState (Session.send (.openCursor prepared) (db.driver.openCursor prepared)) with
  | .error fault => Action.fail (.engine fault)
  | .ok () =>
    match ← Action.ofState (perform db sql params).run with
    | .ok statement =>
      Action.ofState (Session.record .closeCursor)
      Action.note
        (.executed sql params.length statement.rows.length statement.rowcount)
      return statement
    | .error fault =>
      if fault.kind.isDriverError then
        let report := statementReport db sql fault
        Action.ofState (Session.send .rollback fun engine => ((), db.driver.rollback engine))
        Action.note (.failed sql report.kind fault.message)
        Action.ofState (Session.record .closeCursor)
        Action.refuse report
      else
        Action.ofState (Session.record .closeCursor)
        Action.fail (.engine fault)

/-- The rows of a statement. -/
def query (db : Database σ) (sql : Value) (params : List Value) : Action σ (List Row) := do
  return (← run db sql params).rows

/-- The first row of a statement. -/
def queryOne (db : Database σ) (sql : Value) (params : List Value) : Action σ (Option Row) := do
  return (← query db sql params).head?

/-- Runs any statement: the rows of one that yields rows by its leading word, and nothing more
than success of every other. -/
def execute (db : Database σ) (sql : Value) (params : List Value) :
    Action σ (Option (List Row)) := do
  let statement ← run db sql params
  let yields ← Action.check (returnsRowsValue sql)
  return if yields then some statement.rows else none

end Database
end DataLayer
