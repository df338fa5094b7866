import DataLayer.Log.Record

/-! Entries of the log as coloured lines: the time, the level, what happened, where it comes from,
and then the other fields in the order of their names. Traces stand below the line. -/

namespace DataLayer.Console

open DataLayer.Text

/-- The sequence that sets a style of writing. -/
def style (code : String) : String := "\x1b[" ++ code ++ "m"

/-- The sequence that ends all styles. -/
def plain : String := style "0"

/-- The sequence of bold writing. -/
def bold : String := style "1"

/-- The colour of a level. -/
def colour : Level → String
  | .debug => style "32"
  | .info => style "32"
  | .warning => style "33"
  | .error => style "31"
  | .critical => style "31"

/-- A text filled up with spaces. -/
def padded (size : Nat) (text : String) : String :=
  text ++ String.ofList (List.replicate (size - text.length) ' ')

/-- The places that the name of a level takes. -/
def levelWidth : Nat := 9

/-- The places that the name of an event takes. -/
def eventWidth : Nat := 30

/-- The characters for which a text is quoted. -/
def isQuotable (c : Char) : Bool :=
  [' ', '\t', '=', '\r', '\n', '\x22', '\x27'].contains c

/-- The text of a field. Texts are quoted only when that is needed to see where they end. -/
def fieldText (value : Value) : String :=
  match value.text? with
  | some word => if word.toList.any isQuotable then Text.quoted word else word
  | none => value.quoted

/-- A text in a style. -/
def styled (before text : String) : String := before ++ text ++ plain

/-- The name of a logger between brackets. -/
def loggerPart (value : Value) : String :=
  "[" ++ plain ++ styled (bold ++ style "34") value.display ++ "]" ++ plain

/-- A field that has no place of its own. -/
def fieldPart (field : String × Value) : String :=
  styled (style "36") field.1 ++ "=" ++ styled (style "35") (fieldText field.2)

/-- The fields with places of their own, in the order of these. -/
def placedNames : List String := ["timestamp", "level", "event", "logger", "logger_name"]

/-- The fields that stand below the line. -/
def traceNames : List String := ["stack", "exception"]

private def placedPart (level : Level) (name : String) (value : Value) : String :=
  match name with
  | "timestamp" => styled (style "2") value.display
  | "level" => "[" ++ styled (colour level ++ bold) (padded levelWidth level.name) ++ "]"
  | "event" => styled bold (padded eventWidth value.display)
  | _ => loggerPart value

private def trace? (fields : List (String × Value)) (name : String) :
    Except Misuse (Option String) :=
  match Entries.get? name fields with
  | none => .ok none
  | some .null => .ok none
  | some value =>
    match value.text? with
    | some word => .ok (some word)
    | none => .error (.unsuitable ("can only concatenate str (not \"" ++ value.kindName
        ++ "\") to str"))

/-- The line between the trace of calls and that of a failure. -/
def divider : String := "\n\n" ++ String.ofList (List.replicate 79 '=') ++ "\n"

/-- The traces of calls and of a failure. The first is set apart also when the second is asked for
and there is none. -/
def traces (asked : Bool) (stack? complaint? : Option String) : String :=
  (match stack? with
    | some stack =>
      "\n" ++ stack ++ (if asked || complaint?.isSome then divider else "")
    | none => "") ++ (match complaint? with
    | some complaint => "\n" ++ complaint
    | none => "")

/-- The line of an entry of a level with all its fields. -/
def line (level : Level) (fields : List (String × Value)) : Except Misuse String := do
  let stack ← trace? fields "stack"
  let complaint ← trace? fields "exception"
  let asked := ((Entries.get? LogEntry.failureName fields).map Value.isTruthy).getD false
  let fields := Entries.erase LogEntry.failureName fields
  let placed := placedNames.filterMap fun name =>
    (Entries.get? name fields).map (placedPart level name)
  let others := (fields.filter fun field =>
    !placedNames.contains field.1 && !traceNames.contains field.1).mergeSort
      fun a b => a.1 ≤ b.1
  let text := " ".intercalate (placed ++ others.map fieldPart)
  return String.ofList (text.toList.reverse.dropWhile (· == ' ')).reverse
    ++ traces asked stack complaint

end DataLayer.Console
