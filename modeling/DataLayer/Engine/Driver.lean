import DataLayer.Fault.Basic

/-! The engine as the library sees it: a connection that can open cursors, run statements and end
transactions. Each operation may fail and may change the state of the engine. -/

namespace DataLayer

/-- What an engine answers to a statement. Without columns there is no result set. -/
structure Answer where
  columns : List String := []
  rowcount : Value := .int 0
  lastrowid : Value := .null

/-- An engine with states in `σ`. -/
structure Driver (σ : Type) where
  connect : σ → Except EngineFault Unit × σ
  /-- Runs the statement that prepares a fresh connection. -/
  setup : String → σ → Except EngineFault Unit × σ
  openCursor : Bool → σ → Except EngineFault Unit × σ
  execute : Value → List Value → σ → Except EngineFault Answer × σ
  fetchAll : σ → Except EngineFault (List (List Value)) × σ
  commit : σ → Except EngineFault Unit × σ
  rollback : σ → σ

namespace EngineFault

/-- A complaint as a server makes it: one without words is given some. -/
def worded (fault : EngineFault) : EngineFault :=
  if fault.kind.isDriverError && fault.message = "" then { fault with message := "Unknown error" }
  else fault

end EngineFault

namespace Driver

variable {σ α : Type}

private def wordedResult (result : Except EngineFault α × σ) : Except EngineFault α × σ :=
  (result.1.mapError EngineFault.worded, result.2)

/-- An engine all of whose complaints have words. -/
def worded (driver : Driver σ) : Driver σ where
  connect s := wordedResult (driver.connect s)
  setup sql s := wordedResult (driver.setup sql s)
  openCursor prepared s := wordedResult (driver.openCursor prepared s)
  execute sql params s := wordedResult (driver.execute sql params s)
  fetchAll s := wordedResult (driver.fetchAll s)
  commit s := wordedResult (driver.commit s)
  rollback := driver.rollback

end Driver

/-- What an engine is asked for, in the order in which it sees it. -/
inductive EngineEvent where
  | connect (kind : EngineKind) (keywords : List (String × Value))
  | setup (sql : String)
  | openCursor (prepared : Bool)
  | execute (sql : Value) (params : List Value)
  | fetchAll
  | commit
  | rollback
  | closeCursor
  | close

end DataLayer
