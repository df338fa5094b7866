import DataLayer.Calendar.Basic

/-! Reading dates, times and moments by ISO 8601, in the basic and in the extended format.

A date is a day of a month, or a day of a week; the Monday of a week may be left out. A time has an
hour, and then as many of minute, second and fraction as wanted. -/

namespace DataLayer.Calendar

open DataLayer.Text

/-- Reads exactly `count` decimal digits of the basic script. -/
def digits? (count : Nat) (chars : List Char) : Option (Nat × List Char) :=
  let row := chars.take count
  if row.length = count && row.all Char.isDigit then
    some (numberOf (row.map fun c => c.toNat - 48), chars.drop count)
  else none

/-- Reads one given character. -/
def char? (expected : Char) : List Char → Option (List Char)
  | [] => none
  | c :: rest => if c = expected then some rest else none

/-- Leaves out a hyphen if there has to be one. -/
def hyphen? (extended : Bool) (chars : List Char) : Option (List Char) :=
  if extended then char? '-' chars else some chars

/-- The day of a month. -/
def monthDay? (year month day : Nat) : Option Date :=
  if 1 ≤ year && 1 ≤ month && month ≤ 12 && 1 ≤ day && day ≤ Date.daysIn year month then
    some ⟨year, month, day⟩
  else none

/-- The Monday of the first week of a year, which is the one that holds the fourth of January. -/
def firstMonday (year : Nat) : Int :=
  let fourth := Date.dayNumber ⟨year, 1, 4⟩
  fourth - (fourth + 3) % 7

/-- The day that is so many days from the first of January 1970, earlier days being negative. -/
def dayAt (number : Int) : Date :=
  -- Four hundred years have a whole number of days.
  let shifted := Date.ofDayNumber (number + 400 * 146097).toNat
  { shifted with year := shifted.year - 160000 }

/-- The day of a week of a year. -/
def weekDay? (year week day : Nat) : Option Date :=
  let monday := firstMonday year + 7 * (week - 1)
  if 1 ≤ year && 1 ≤ week && (monday < firstMonday (year + 1)) && 1 ≤ day && day ≤ 7 then
    some (dayAt (monday + (day - 1)))
  else none

/-- Reads a date up to the end of the text. -/
def dateToEnd? (chars : List Char) : Option Date := do
  let (year, chars) ← digits? 4 chars
  let extended := chars.head? = some '-'
  let chars ← hyphen? extended chars
  match chars with
  | 'W' :: chars =>
    let (week, chars) ← digits? 2 chars
    if chars.isEmpty then weekDay? year week 1
    else
      let chars ← hyphen? extended chars
      let (day, chars) ← digits? 1 chars
      if chars.isEmpty then weekDay? year week day else none
  | chars =>
    let (month, chars) ← digits? 2 chars
    let chars ← hyphen? extended chars
    let (day, chars) ← digits? 2 chars
    if chars.isEmpty then monthDay? year month day else none

/-- The length of the date at the start of a moment. A hyphen after a week stands before a day,
unless two digits follow it, which are an hour then. -/
def dateLength (chars : List Char) : Nat :=
  let digitAt (position : Nat) : Bool := (chars[position]?).any Char.isDigit
  if chars[4]? = some '-' then
    if chars[5]? = some 'W' then
      if chars[8]? = some '-' && !digitAt 10 then 10 else 8
    else 10
  else if chars[4]? = some 'W' then
    let digits := ((chars.drop 7).takeWhile Char.isDigit).length
    if digits < 2 then 7 + digits
    else if digits % 2 = 1 then 7
    else 8
  else 8

/-- Reads a fraction of a second up to the end of the text, in millionths; further digits are left
out. -/
def fraction? (chars : List Char) : Option Nat :=
  if !chars.isEmpty && chars.all Char.isDigit then
    let six := (chars ++ List.replicate 6 '0').take 6
    some (numberOf (six.map fun c => c.toNat - 48))
  else none

/-- Hour, minute, second and millionths of a second. -/
abbrev Parts := Nat × Nat × Nat × Nat

/-- Reads what follows an hour, a minute or a second: nothing more, or a fraction, or else the next
part, which stands after a colon in the extended format. `none` as the next part is for the end of
the text. -/
def nextPart? (extended : Bool) (chars : List Char) :
    Option (Option (Nat × List Char)) :=
  match chars with
  | [] => some none
  | chars => do
    let chars ← if extended then char? ':' chars else some chars
    some (some (← digits? 2 chars))

/-- Reads a fraction after a point or a comma. -/
def fractionAfterPoint? : List Char → Option (Option Nat)
  | '.' :: rest => (fraction? rest).map some
  | ',' :: rest => (fraction? rest).map some
  | _ => some none

/-- Reads hour, minute, second and fraction up to the end of the text. In the basic format a
fraction can follow the second without a point. -/
def parts? (chars : List Char) : Option Parts := do
  let (hour, chars) ← digits? 2 chars
  let extended := chars.head? = some ':'
  match ← fractionAfterPoint? chars with
  | some micro => some (hour, 0, 0, micro)
  | none =>
    match ← nextPart? extended chars with
    | none => some (hour, 0, 0, 0)
    | some (minute, chars) =>
      match ← fractionAfterPoint? chars with
      | some micro => some (hour, minute, 0, micro)
      | none =>
        match ← nextPart? extended chars with
        | none => some (hour, minute, 0, 0)
        | some (second, chars) =>
          if chars.isEmpty then some (hour, minute, second, 0)
          else match ← fractionAfterPoint? chars with
            | some micro => some (hour, minute, second, micro)
            | none =>
              if extended then none
              else (fraction? chars).map fun micro => (hour, minute, second, micro)

/-- Reads an offset from universal time up to the end of the text. One of less than a second is
none at all. -/
def offset? (chars : List Char) : Option (Option Int) :=
  match chars with
  | [] => some none
  | ['Z'] => some (some 0)
  | sign :: rest => do
    let (hour, minute, second, micro) ← parts? rest
    let seconds := 3600 * hour + 60 * minute + second
    let size : Int := if seconds = 0 then 0 else 1000000 * seconds + micro
    some (some (if sign = '-' then -size else size))

/-- Reads a time of day up to the end of the text. -/
def timeToEnd? (chars : List Char) : Option Time := do
  let isOffset (c : Char) : Bool := c == '+' || c == '-' || c == 'Z'
  let clock := chars.takeWhile fun c => !isOffset c
  let (hour, minute, second, micro) ← parts? clock
  let offset ← offset? (chars.drop clock.length)
  if hour < 24 && minute < 60 && second < 60 then
    some { hour, minute, second, micro, offset }
  else none

end DataLayer.Calendar

namespace DataLayer

open DataLayer.Calendar

/-- Reads a date. -/
def Date.ofText? (text : String) : Option Date := dateToEnd? text.toList

/-- Reads a time of day, which may be marked as one by a letter. -/
def Time.ofText? (text : String) : Option Time :=
  match text.toList with
  | 'T' :: rest => timeToEnd? rest
  | chars => timeToEnd? chars

/-- Reads a moment; a date alone is its first second. Any character may stand between the date and
the time. -/
def Moment.ofText? (text : String) : Option Moment := do
  let chars := text.toList
  let length := dateLength chars
  let date ← dateToEnd? (chars.take length)
  match chars.drop length with
  | [] => some ⟨date, { hour := 0, minute := 0, second := 0 }⟩
  | _ :: rest => (timeToEnd? rest).map fun time => ⟨date, time⟩

end DataLayer
