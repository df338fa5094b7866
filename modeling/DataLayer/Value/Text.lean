import DataLayer.Number.Shortest
import DataLayer.Text.Quoted
import DataLayer.Value.Basic

/-! Two written forms of a value: the plain one, and the quoted one, which shows texts between
quotes and names the kind of a value that has no literal. Inside lists and maps values are always
quoted. -/

namespace DataLayer

open DataLayer.Text

private def commaSeparated (parts : List String) : String := ", ".intercalate parts

/-- A distance from universal time, in days, seconds and millionths of a second. -/
private def offsetQuoted (offset : Int) : String :=
  if offset = 0 then "datetime.timezone.utc"
  else
    let part (name : String) (size : Int) : List String :=
      if size = 0 then [] else [name ++ "=" ++ signedDecimal size]
    let seconds := offset / 1000000
    let parts := part "days" (seconds / 86400) ++ part "seconds" (seconds % 86400)
      ++ part "microseconds" (offset % 1000000)
    "datetime.timezone(datetime.timedelta(" ++ commaSeparated parts ++ "))"

private def offsetParts : Option Int → List String
  | none => []
  | some offset => ["tzinfo=" ++ offsetQuoted offset]

/-- The numbers of a time of day; the last ones are left out while they are zero. -/
private def timeParts (t : Time) : List String :=
  [decimal t.hour, decimal t.minute]
    ++ (if t.second = 0 && t.micro = 0 then [] else [decimal t.second])
    ++ (if t.micro = 0 then [] else [decimal t.micro])
    ++ offsetParts t.offset

private def dateParts (d : Date) : List String := [decimal d.year, decimal d.month, decimal d.day]

private def quotedScalar : Value → String
  | .null => "None"
  | .bool true => "True"
  | .bool false => "False"
  | .int value => signedDecimal value
  | .float value => value.text
  | .text value => Text.quoted value
  | .bytes value => quotedBytes value
  | .decimal value => "Decimal('" ++ value.text ++ "')"
  | .date value => "datetime.date(" ++ commaSeparated (dateParts value) ++ ")"
  | .datetime value =>
    "datetime.datetime(" ++ commaSeparated (dateParts value.date ++ timeParts value.time) ++ ")"
  | .time value => "datetime.time(" ++ commaSeparated (timeParts value) ++ ")"
  | .columnType value => "<" ++ value.label ++ ": '" ++ value.word ++ "'>"
  | .engineKind value => "<" ++ value.label ++ ": '" ++ value.word ++ "'>"
  | .list _ => ""
  | .tuple _ => ""
  | .map _ => ""

mutual

/-- The quoted form of a value. A tuple of one item ends with a comma. -/
def Value.quoted : Value → String
  | .list items => "[" ++ commaSeparated (quotedItems items) ++ "]"
  | .tuple items =>
    match quotedItems items with
    | [item] => "(" ++ item ++ ",)"
    | parts => "(" ++ commaSeparated parts ++ ")"
  | .map entries => "\x7b" ++ commaSeparated (quotedEntries entries) ++ "\x7d"
  | .null => quotedScalar .null
  | .bool value => quotedScalar (.bool value)
  | .int value => quotedScalar (.int value)
  | .float value => quotedScalar (.float value)
  | .text value => quotedScalar (.text value)
  | .bytes value => quotedScalar (.bytes value)
  | .decimal value => quotedScalar (.decimal value)
  | .date value => quotedScalar (.date value)
  | .datetime value => quotedScalar (.datetime value)
  | .time value => quotedScalar (.time value)
  | .columnType value => quotedScalar (.columnType value)
  | .engineKind value => quotedScalar (.engineKind value)

/-- The quoted forms of a row of values. -/
def quotedItems : List Value → List String
  | [] => []
  | item :: rest => item.quoted :: quotedItems rest

/-- The quoted forms of the entries of a map. -/
def quotedEntries : List (Value × Value) → List String
  | [] => []
  | entry :: rest => quotedEntry entry :: quotedEntries rest

/-- The quoted form of one entry of a map. -/
def quotedEntry : Value × Value → String
  | (key, value) => key.quoted ++ ": " ++ value.quoted

end

/-- The plain form of a value: texts as they are, members of closed sets by name, days and times
in the extended format, and everything else as quoted. -/
def Value.display : Value → String
  | .text value => value
  | .decimal value => value.text
  | .date value => value.text
  | .datetime value => value.text " "
  | .time value => value.text
  | .columnType value => value.label
  | .engineKind value => value.label
  | value => value.quoted

end DataLayer
