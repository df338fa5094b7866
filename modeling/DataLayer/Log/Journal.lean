import DataLayer.Log.Console

/-! The log as it is written: what it is set to, what is bound, which blocks are open, and the
lines so far. -/

namespace DataLayer

/-- A line of the log. -/
inductive LogLine where
  | record (fields : List (String × Value))
  | console (text : String)

/-- The log as it is written. -/
structure Journal where
  settings : LogSettings
  /-- The time that the clock shows, as it is written. -/
  clock : String
  context : LogContext := []
  /-- The names that each open block has bound, innermost first. -/
  blocks : List (List String) := []
  lines : List LogLine := []

namespace Journal

/-- Sets the log. -/
def set (settings : LogSettings) (journal : Journal) : Journal := { journal with settings }

/-- Binds fields from here on. -/
def bind (fields : List (String × Value)) (journal : Journal) : Journal :=
  { journal with context := LogContext.bind fields journal.context }

/-- Unbinds names. -/
def unbind (names : List String) (journal : Journal) : Journal :=
  { journal with context := LogContext.unbind names journal.context }

/-- Opens a block, which binds fields. None of them can be named as the block itself is. -/
def enter (fields : List (String × Value)) (journal : Journal) : Except Misuse Journal :=
  if Entries.contains Script.Signature.receiver fields then
    .error (.unsuitable "LogContext.__init__() got multiple values for argument 'self'")
  else .ok { journal.bind fields with blocks := Entries.keys fields :: journal.blocks }

/-- Leaves the innermost block. The names that it bound are unbound, also those that were bound
before it. -/
def leave (journal : Journal) : Except Misuse Journal :=
  match journal.blocks with
  | [] => .error (.outOfRange "pop from empty list")
  | names :: rest => .ok { journal.unbind names with blocks := rest }

/-- The logger that a name stands for. -/
def loggerOf (name : String) : String := if name = "" then "root" else name

/-- The line of an entry. -/
def lineOf (journal : Journal) (entry : LogEntry) : Except Misuse LogLine :=
  if journal.settings.asRecords then
    (entry.record journal.settings journal.clock journal.context).map LogLine.record
  else
    (Console.line entry.level
      (entry.allFields journal.settings journal.clock journal.context)).map LogLine.console

/-- The levels by the names that entries are logged under; two have a second name. -/
def levels : List (String × Level) :=
  [("debug", .debug), ("info", .info), ("warning", .warning), ("warn", .warning),
    ("error", .error), ("critical", .critical), ("fatal", .critical)]

/-- Logs an entry, if it passes the threshold. -/
def log (entry : LogEntry) (journal : Journal) : Except Misuse Journal :=
  match entry.fields.find? fun field => LogEntry.reservedNames.contains field.1 with
  | some field => .error (.unsuitable
      ("got multiple values for argument '" ++ field.1 ++ "'"))
  | none =>
    if entry.passes journal.settings then do
      return { journal with lines := journal.lines ++ [← journal.lineOf entry] }
    else .ok journal

end Journal
end DataLayer
