import DataLayer.Calendar.Basic
import DataLayer.Text.Blank
import DataLayer.Zone.Table

/-! The distance of a zone's clocks from universal time at a moment, and the form in which a
session is told of it. -/

namespace DataLayer.Zone

open DataLayer.Text

/-- A zone: the offset before the first change, the moment of each change with the offset from
then on, and the rule for the time after the last change. -/
structure Clock where
  before : Int
  changes : List (Int × Int)
  rule : Option YearRule

/-- The moment from which the first change is counted. -/
def epoch : Int := -10000000000

/-- A digit to base thirty-six. -/
def digit36? (c : Char) : Option Nat :=
  if c.isDigit then some (c.toNat - 48)
  else if c.isLower then some (c.toNat - 87)
  else none

/-- Reads changes one character after the other. `quarters` and `rest` hold the digits read since
the last letter; `pointed` holds once the point has been read. -/
def readChanges (offsets : List Int) (time : Int) (quarters rest : Nat) (pointed : Bool) :
    List Char → List (Int × Int)
  | [] => []
  | c :: chars =>
    match digit36? c with
    | some digit =>
      if pointed then readChanges offsets time quarters (36 * rest + digit) true chars
      else readChanges offsets time (36 * quarters + digit) rest false chars
    | none =>
      if c = '.' then readChanges offsets time quarters rest true chars
      else
        let now := time + 900 * quarters + rest
        (now, offsets.getD (c.toNat - 65) 0) :: readChanges offsets now 0 0 false chars

/-- The clock that an entry of the table describes. -/
def Entry.clock (entry : Entry) : Clock where
  before := entry.offsets.headD 0
  changes := readChanges entry.offsets epoch 0 0 false (entry.changes.flatMap String.toList)
  rule := entry.rule

/-- The year that a day belongs to, days being counted from the first of January 1970. -/
def yearOf (day : Int) : Int :=
  let shifted := day + 719468
  let era := shifted / 146097
  let dayOfEra := shifted % 146097
  let yearOfEra := (dayOfEra - dayOfEra / 1460 + dayOfEra / 36524 - dayOfEra / 146096) / 365
  let dayOfYear := dayOfEra - (365 * yearOfEra + yearOfEra / 4 - yearOfEra / 100)
  yearOfEra + 400 * era + (if 306 ≤ dayOfYear then 1 else 0)

/-- The second at which clocks change in a year, on the clock shown before the change. -/
def YearDay.secondIn (d : YearDay) (year : Nat) : Int :=
  let first := Date.dayNumber ⟨year, d.month, 1⟩
  let weekday := (first + 4) % 7
  let day := (d.weekday - weekday) % 7 + (d.week - 1) * 7
  let last : Int := Date.daysIn year d.month
  let day := if last ≤ day then day - 7 else day
  86400 * (first + day) + d.second

/-- The offset that the rule of the years gives at a moment. Where summer spans the turn of the
year it ends before it starts. -/
def YearRule.offsetAt (r : YearRule) (moment : Int) : Int :=
  let year := (yearOf (moment / 86400)).toNat
  let start := r.start.secondIn year - r.standard
  let finish := r.finish.secondIn year - r.summer
  let summer :=
    if start < finish then start ≤ moment && moment < finish
    else !(finish ≤ moment && moment < start)
  if summer then r.summer else r.standard

/-- The offset after the changes that lie at or before a moment. -/
def offsetAfter (moment : Int) (offset : Int) : List (Int × Int) → Int
  | [] => offset
  | (time, next) :: rest => if moment < time then offset else offsetAfter moment next rest

/-- The offset of a clock at a moment, both in seconds. -/
def Clock.offsetAt (c : Clock) (moment : Int) : Int :=
  match c.changes.getLast?, c.rule with
  | some (last, _), some rule =>
    if last ≤ moment then rule.offsetAt moment else offsetAfter moment c.before c.changes
  | none, some rule => rule.offsetAt moment
  | _, none => offsetAfter moment c.before c.changes

/-- What a name of a zone leads to. -/
inductive Lookup where
  | found (clock : Clock)
  /-- No zone has this name. -/
  | unknown
  /-- The name cannot be the name of a zone at all. -/
  | unreadable
  /-- The name is that of a group of zones. -/
  | group
  /-- The name is longer than names can be. -/
  | tooLong
  /-- The name leads through the note of a group, as though that were a group too. -/
  | noGroup (path : List String)

/-- Names under which the table keeps something other than zones. -/
def otherFiles : List String :=
  ["tzdata.zi", "zone.tab", "zone1970.tab", "zonenow.tab", "iso3166.tab", "leapseconds"]

/-- The name under which every group keeps a note on itself, as a part of a path. -/
def groupNote : String := "__init__"

/-- The name of the file that holds the note of a group. -/
def groupNoteFile : String := groupNote ++ ".py"

/-- The most bytes that a part of a name can have. -/
def longestPart : Nat := 255

/-- Holds of names in normal form: parts between single slashes, none of them empty or a step to
another folder. -/
def isNormal (name : String) : Bool :=
  (splitAtChar '/' name.toList).all fun part =>
    !part.isEmpty && part != ['.'] && part != ['.', '.']

/-- Looks up a zone by name. Groups are named by the parts before the last one; between groups a
point does as well as a slash. -/
def find (name : String) : Lookup :=
  if !isNormal name then .unreadable
  else
    let parts := splitAtChar '/' name.toList
    let groups := parts.dropLast.flatMap (splitAtChar '.')
    let last := String.ofList (parts.getLast?.getD [])
    let start := String.join (groups.map fun group => String.ofList group ++ "/")
    let full := start ++ last
    let opens (start : String) : Bool :=
      entries.any fun entry => entry.names.any fun other => start.isPrefixOf other
    let outer := String.join (groups.dropLast.map fun group => String.ofList group ++ "/")
    let endsInNote := groups.getLast? == some groupNote.toList
    if groups.any List.isEmpty then .unknown
    else if endsInNote && opens outer then .noGroup (groups.map String.ofList)
    else if !opens start then .unknown
    else if last.toList.contains '\x00' then .unreadable
    else if longestPart < last.utf8ByteSize then .tooLong
    else match entries.find? fun entry => entry.names.contains full with
      | some entry => .found entry.clock
      | none =>
        if last = groupNoteFile || otherFiles.contains full then .unreadable
        else if opens (full ++ "/") then .group
        else .unknown

/-- An offset as a session is told of it: sign and hours, a colon, and the rest. -/
def sessionText (offset : Int) : String :=
  let size := offset.natAbs
  (if offset < 0 then "-" else "+") ++ padded 2 (size / 3600) ++ ":" ++ padded 2 (size / 60 % 60)
    ++ (if size % 60 = 0 then "" else padded 2 (size % 60))

/-- The first and the last second that a calendar of four-digit years has. -/
def calendarRange : Int × Int :=
  (86400 * Date.dayNumber ⟨1, 1, 1⟩, 86400 * Date.dayNumber ⟨9999, 12, 31⟩ + 86399)

/-- Holds of moments that a calendar of four-digit years has. -/
def inCalendar (moment : Int) : Bool :=
  calendarRange.1 ≤ moment && moment ≤ calendarRange.2

end DataLayer.Zone
