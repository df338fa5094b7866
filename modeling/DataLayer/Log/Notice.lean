import DataLayer.Fault.Report

/-! What is logged while a database is worked with: a closed set of notices, each with its level,
its name and its fields. -/

namespace DataLayer

/-- How much a notice matters. -/
inductive Level where
  | debug | info | warning | error | critical
deriving DecidableEq, Repr

namespace Level

/-- The name of a level. -/
def name : Level → String
  | .debug => "debug"
  | .info => "info"
  | .warning => "warning"
  | .error => "error"
  | .critical => "critical"

/-- The rank of a level; a threshold lets through what ranks at least as high. -/
def rank : Level → Nat
  | .debug => 10
  | .info => 20
  | .warning => 30
  | .error => 40
  | .critical => 50

end Level

/-- One thing that is worth a line in the log. -/
inductive Notice where
  | connected (kind : EngineKind) (target : String) (timeZone : Option String)
  | executed (sql : Value) (params rows : Nat) (rowcount : Value)
  | failed (sql : Value) (kind : ReportKind) (engineMessage : String)
  | unscopedWrite (operation : String) (table : Value)
  | noChange (table : Value)
  | applied
  | migrationFailed (message : String)
  | rollbackFailed (migration : Value) (message : String)
  | rolledBack (migration : Value)
  | seedCompleted (seeder : String)
  | seedSkipped (seeder : String)
  | seedFailed (seeder message : String)

namespace Notice

/-- The level of a notice. -/
def level : Notice → Level
  | .connected _ _ _ => .debug
  | .executed _ _ _ _ => .debug
  | .failed _ _ _ => .error
  | .unscopedWrite _ _ => .warning
  | .noChange _ => .debug
  | .applied => .info
  | .migrationFailed _ => .error
  | .rollbackFailed _ _ => .error
  | .rolledBack _ => .info
  | .seedCompleted _ => .info
  | .seedSkipped _ => .warning
  | .seedFailed _ _ => .error

/-- The name of a notice. -/
def event : Notice → String
  | .connected _ _ _ => "database.connected"
  | .executed _ _ _ _ => "query.executed"
  | .failed _ _ _ => "query.failed"
  | .unscopedWrite _ _ => "query.unscoped_write"
  | .noChange _ => "schema.noop"
  | .applied => "migration.applied"
  | .migrationFailed _ => "migration.failed"
  | .rollbackFailed _ _ => "migration.failed"
  | .rolledBack _ => "migration.rolled_back"
  | .seedCompleted _ => "seed.completed"
  | .seedSkipped _ => "seed.skipped"
  | .seedFailed _ _ => "seed.failed"

/-- The part of the library that a notice comes from. -/
def logger : Notice → String
  | .connected .sqlite _ _ => "fluentdb.core.adapters.sqlite"
  | .connected .mysql _ _ => "fluentdb.core.adapters.mysql"
  | .executed _ _ _ _ => "fluentdb.core.adapters.base"
  | .failed _ _ _ => "fluentdb.core.adapters.base"
  | .unscopedWrite _ _ => "fluentdb.query.builder"
  | .noChange _ => "fluentdb.schema.facade"
  | .applied => "fluentdb.migrations.runner"
  | .migrationFailed _ => "fluentdb.migrations.runner"
  | .rollbackFailed _ _ => "fluentdb.migrations.runner"
  | .rolledBack _ => "fluentdb.migrations.runner"
  | .seedCompleted _ => "fluentdb.seeding.seeder"
  | .seedSkipped _ => "fluentdb.seeding.seeder"
  | .seedFailed _ _ => "fluentdb.seeding.seeder"

/-- The fields of a notice. -/
def fields : Notice → List (String × Value)
  | .connected _ target timeZone =>
    ("target", .text target) :: match timeZone with
      | none => []
      | some offset => [("time_zone", .text offset)]
  | .executed sql params rows rowcount =>
    [("sql", sql), ("params", .int params), ("rows", .int rows), ("rowcount", rowcount)]
  | .failed sql kind engineMessage =>
    [("sql", sql), ("error_type", .text kind.name), ("engine_message", .text engineMessage)]
  | .unscopedWrite operation table => [("operation", .text operation), ("table", table)]
  | .noChange table => [("table", table)]
  | .applied => []
  | .migrationFailed message => [("error", .text message)]
  | .rollbackFailed migration message =>
    [("migration", migration), ("error", .text message), ("direction", .text "down")]
  | .rolledBack migration => [("migration", migration)]
  | .seedCompleted seeder => [("seeder", .text seeder)]
  | .seedSkipped seeder => [("seeder", .text seeder), ("reason", .text "class not found")]
  | .seedFailed seeder message => [("seeder", .text seeder), ("error", .text message)]

/-- Holds of the notice that follows every statement that went well. -/
def isExecuted : Notice → Bool
  | .executed _ _ _ _ => true
  | _ => false

end Notice

/-- The context that is bound while something is logged. Keys keep the order of binding. -/
abbrev LogContext := List (String × Value)

namespace LogContext

/-- Binds fields to the context. -/
def bind (fields : List (String × Value)) (context : LogContext) : LogContext :=
  Entries.putAll context fields

/-- Takes keys out of the context, whatever they were bound to before. -/
def unbind (names : List String) (context : LogContext) : LogContext :=
  names.foldl (fun context name => Entries.erase name context) context

end LogContext

/-- A notice with the context that was bound when it was logged. -/
structure Logged where
  notice : Notice
  context : LogContext

/-- The fields of a log line; those of the notice win over the context. -/
def Logged.fields (entry : Logged) : List (String × Value) :=
  Entries.putAll entry.context entry.notice.fields

end DataLayer
