import DataLayer.Log.Settings
import DataLayer.Value.Text

/-! Entries of the log as records of fields.

The fields of an entry win over the context. Level and logger are those of the entry whatever is
bound under these names; the service gives way to a field or a bound value of its name. -/

namespace DataLayer

open DataLayer.Text

/-- Something that is handed to the log. -/
structure LogEntry where
  level : Level
  event : String
  logger : String
  fields : List (String × Value) := []

/-- A notice as an entry of the log. -/
def Notice.entry (notice : Notice) : LogEntry where
  level := notice.level
  event := notice.event
  logger := notice.logger
  fields := notice.fields

/-- A key of a map in a record. Nothing, truth values and numbers are spelled; keys of other
kinds are refused. -/
def Value.recordKey : Value → Except Misuse String
  | .null => .ok "null"
  | .bool true => .ok "true"
  | .bool false => .ok "false"
  | .int n => .ok (signedDecimal n)
  | .float x => .ok (match x.text with
    | "inf" => "Infinity"
    | "-inf" => "-Infinity"
    | "nan" => "NaN"
    | finite => finite)
  | key =>
    match key.text? with
    | some word => .ok word
    | none => .error (.unsuitable ("keys must be str, int, float, bool or None, not "
        ++ key.kindName))

mutual

/-- The form of a value in a record: tuples become lists, members of closed sets their words, and
what a record cannot hold its quoted form. -/
def Value.recorded : Value → Except Misuse Value
  | .list items => (recordedItems items).map Value.list
  | .tuple items => (recordedItems items).map Value.list
  | .map entries => (recordedEntries entries).map fun fields =>
      .map (Entries.putAll [] fields)
  | .null => .ok .null
  | .bool value => .ok (.bool value)
  | .int value => .ok (.int value)
  | .float value => .ok (.float value)
  | .text value => .ok (.text value)
  | .columnType value => .ok (.text value.word)
  | .engineKind value => .ok (.text value.word)
  | .bytes value => .ok (.text (Value.bytes value).quoted)
  | .decimal value => .ok (.text (Value.decimal value).quoted)
  | .date value => .ok (.text (Value.date value).quoted)
  | .datetime value => .ok (.text (Value.datetime value).quoted)
  | .time value => .ok (.text (Value.time value).quoted)

/-- The forms of a row of values. -/
def recordedItems : List Value → Except Misuse (List Value)
  | [] => .ok []
  | item :: rest =>
    match item.recorded, recordedItems rest with
    | .ok first, .ok others => .ok (first :: others)
    | .error misuse, _ => .error misuse
    | _, .error misuse => .error misuse

/-- The forms of the entries of a map. -/
def recordedEntries : List (Value × Value) → Except Misuse (List (Value × Value))
  | [] => .ok []
  | entry :: rest =>
    match recordedEntry entry, recordedEntries rest with
    | .ok first, .ok others => .ok (first :: others)
    | .error misuse, _ => .error misuse
    | _, .error misuse => .error misuse

/-- The form of one entry of a map. -/
def recordedEntry : Value × Value → Except Misuse (Value × Value)
  | (key, value) =>
    match key.recordKey, value.recorded with
    | .ok word, .ok form => .ok (.text word, form)
    | .error misuse, _ => .error misuse
    | _, .error misuse => .error misuse

end

namespace LogEntry

/-- The names that an entry cannot use for its fields, being those of its parts. -/
def reservedNames : List String := ["self", "event", "method_name"]

/-- The field that asks for a trace of calls. It is never written. -/
def callsName : String := "stack_info"

/-- The field that asks for the trace of a failure. It is never written, there being none. -/
def failureName : String := "exc_info"

/-- Puts the entries of a row that are not there yet. -/
def supply (fields additions : List (String × Value)) : List (String × Value) :=
  additions.foldl (fun row addition =>
    if Entries.contains addition.1 row then row else Entries.put addition.1 addition.2 row) fields

/-- The time of an entry, if entries are stamped with it. -/
def stamp (settings : LogSettings) (clock : String) : List (String × Value) :=
  if settings.stamped then [("timestamp", .text clock)] else []

/-- All fields of an entry: its own, the time, those of the context, and those that tell where it
comes from. -/
def allFields (settings : LogSettings) (clock : String) (context : LogContext) (entry : LogEntry) :
    List (String × Value) :=
  let own := Entries.putAll [] (entry.fields ++ [("event", .text entry.event)])
  let bound := supply (Entries.putAll own (stamp settings clock)) context
  let placed := Entries.putAll bound
    [("level", .text entry.level.name), ("logger", .text entry.logger)]
  supply (Entries.erase callsName placed) [("service", settings.service)]

/-- The record of an entry. -/
def record (settings : LogSettings) (clock : String) (context : LogContext) (entry : LogEntry) :
    Except Misuse (List (String × Value)) :=
  (Entries.erase failureName (entry.allFields settings clock context)).mapM fun field => do
    return (field.1, ← field.2.recorded)

/-- Holds of the time of an entry as it is written: a day, a time of day with a fraction, and the
sign of universal time. -/
def isStamp (text : String) : Bool :=
  let chars := text.toList
  let fraction := (chars.drop 20).takeWhile Char.isDigit
  let shape := (chars.take 20).map fun c => if c.isDigit then '0' else c
  shape == "0000-00-00T00:00:00.".toList && !fraction.isEmpty
    && chars.drop (20 + fraction.length) == ['Z']

/-- Holds of the entries that are written. -/
def passes (settings : LogSettings) (entry : LogEntry) : Bool :=
  settings.threshold ≤ entry.level.rank

end LogEntry
end DataLayer
