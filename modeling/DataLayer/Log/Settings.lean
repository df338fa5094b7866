import DataLayer.Log.Notice
import DataLayer.Script.Call
import DataLayer.Text.Case

/-! What the log is set to: from which rank on it takes entries, how it writes them, and which
service it names. -/

namespace DataLayer

open DataLayer.Script DataLayer.Script.Signature DataLayer.Text

/-- What the log is set to. -/
structure LogSettings where
  /-- The lowest rank that is written. -/
  threshold : Nat := 20
  /-- Entries are written as records of fields, and otherwise as coloured lines. -/
  asRecords : Bool := true
  service : Value := .text "fluentdb"
  /-- Entries carry the time at which they were logged. -/
  stamped : Bool := true

namespace LogSettings

/-- The names of thresholds. Two ranks have a second name, and the lowest lets everything
through. -/
def thresholds : List (String × Nat) :=
  [("DEBUG", 10), ("INFO", 20), ("WARNING", 30), ("WARN", 30), ("ERROR", 40), ("CRITICAL", 50),
    ("FATAL", 50), ("NOTSET", 0)]

/-- The text that lines are laid out by, whose name is taken for a threshold. -/
def layoutText : String := "%(levelname)s:%(name)s:%(message)s"

/-- The rank that a name stands for, in any case. Two other names are known in its place, but what
they stand for is no rank. -/
def thresholdOf (name : String) : Except Misuse Nat :=
  let known := upper name
  match Entries.get? known thresholds with
  | some rank => .ok rank
  | none =>
    if known = "BASIC_FORMAT" then
      .error (.unreadable ("Unknown level: " ++ Text.quoted layoutText))
    else if known = "_STYLES" then
      .error (.unsuitable "Level not an integer or a valid string")
    else .error (.noSuchSetting "logging" known)

/-- The settings with a threshold given by its name. -/
def withThreshold (settings : LogSettings) (name : String) : Except Misuse LogSettings := do
  return { settings with threshold := ← thresholdOf name }

/-- The settings from named arguments. When the form of the entries is left open they are written
as records, the log being no terminal. -/
def ofNamed (named : List (String × Value)) : Except Misuse LogSettings := do
  let bound ← bind
    { owner := "configure_logging",
      parameters := ["level", "json_format", "service", "add_timestamp"].map optional } [] named
  let settings : LogSettings :=
    { asRecords := match bound.getD "json_format" .null with
        | .null => true
        | wish => wish.isTruthy
      service := bound.getD "service" (.text "fluentdb")
      stamped := (bound.getD "add_timestamp" (.bool true)).isTruthy }
  match bound.getD "level" (.text "INFO") with
  | .bytes _ => .error (.unsuitable "attribute name must be string, not 'bytes'")
  | level =>
    match level.text? with
    | some name => settings.withThreshold name
    | none => .error (.noSuchMember level.kindName "upper")

end LogSettings
end DataLayer
