import DataLayer.Text.Digit

/-! Dates, times of day and moments of the proleptic Gregorian calendar, and how they are
written. -/

namespace DataLayer

open DataLayer.Text

/-- A day. -/
structure Date where
  year : Nat
  month : Nat
  day : Nat
deriving DecidableEq, Repr

/-- A time of day; `offset` is its distance from universal time in millionths of a second, if it
has one. -/
structure Time where
  hour : Nat
  minute : Nat
  second : Nat
  micro : Nat := 0
  offset : Option Int := none
deriving DecidableEq, Repr

/-- A day and a time of that day. -/
structure Moment where
  date : Date
  time : Time
deriving DecidableEq, Repr

namespace Date

/-- `2025-01-02`. -/
def text (d : Date) : String :=
  padded 4 d.year ++ "-" ++ padded 2 d.month ++ "-" ++ padded 2 d.day

/-- Days from the first of January 1970. Years are counted from March, so that the leap day is
the last one of its year. -/
def dayNumber (d : Date) : Int :=
  let year : Int := if d.month ≤ 2 then d.year - 1 else d.year
  let month := if d.month ≤ 2 then d.month + 9 else d.month - 3
  let dayOfYear : Int := (153 * month + 2) / 5 + d.day - 1
  365 * year + year / 4 - year / 100 + year / 400 + dayOfYear - 719468

/-- The day that is so many days after the first of January 1970, by periods of four hundred
years. -/
def ofDayNumber (number : Nat) : Date :=
  let days := number + 719468
  let inPeriod := days % 146097
  let years := (inPeriod - inPeriod / 1460 + inPeriod / 36524 - inPeriod / 146096) / 365
  let dayOfYear := inPeriod - (365 * years + years / 4 - years / 100)
  let month := (5 * dayOfYear + 2) / 153
  let year := years + 400 * (days / 146097)
  { year := if month < 10 then year else year + 1
    month := if month < 10 then month + 3 else month - 9
    day := dayOfYear - (153 * month + 2) / 5 + 1 }

/-- The number of days that a month has. -/
def daysIn (year month : Nat) : Nat :=
  if month = 2 then
    if year % 4 = 0 && (year % 100 != 0 || year % 400 = 0) then 29 else 28
  else if month = 4 || month = 6 || month = 9 || month = 11 then 30
  else 31

end Date

/-- A distance in millionths of a second as sign, hours and minutes, and seconds and their
fraction when there are any. -/
def offsetText (offset : Int) : String :=
  let micro := offset.natAbs % 1000000
  let size := offset.natAbs / 1000000
  (if offset < 0 then "-" else "+") ++ padded 2 (size / 3600) ++ ":" ++ padded 2 (size / 60 % 60)
    ++ (if size % 60 = 0 && micro = 0 then "" else ":" ++ padded 2 (size % 60))
    ++ (if micro = 0 then "" else "." ++ padded 6 micro)

namespace Time

/-- `03:04:05`, with six digits of a fraction when it is not zero and the offset when there is
one. -/
def text (t : Time) : String :=
  padded 2 t.hour ++ ":" ++ padded 2 t.minute ++ ":" ++ padded 2 t.second
    ++ (if t.micro = 0 then "" else "." ++ padded 6 t.micro)
    ++ (match t.offset with
      | none => ""
      | some offset => offsetText offset)

end Time

namespace Moment

/-- The date and the time with a separator between them. -/
def text (separator : String) (m : Moment) : String := m.date.text ++ separator ++ m.time.text

/-- Seconds from the start of 1970 on a clock that shows universal time. -/
def seconds (m : Moment) : Int :=
  86400 * m.date.dayNumber + 3600 * m.time.hour + 60 * m.time.minute + m.time.second

/-- Millionths of a second from the start of 1970 on a clock that shows universal time. -/
def micros (m : Moment) : Int := 1000000 * m.seconds + m.time.micro

/-- The moment that is so many seconds after the start of 1970 on a clock that shows universal
time. -/
def ofSeconds (number : Nat) : Moment where
  date := Date.ofDayNumber (number / 86400)
  time :=
    { hour := number / 3600 % 24, minute := number / 60 % 60, second := number % 60 }

/-- `2025_01_02_030405`, the stamp of a file made at that moment. The year is written in its own
digits only. -/
def stamp (m : Moment) : String :=
  decimal m.date.year ++ "_" ++ padded 2 m.date.month ++ "_" ++ padded 2 m.date.day ++ "_"
    ++ padded 2 m.time.hour ++ padded 2 m.time.minute ++ padded 2 m.time.second

/-- `2025-01-02 03:04:05`, as a ledger row records when it was made. -/
def ledgerText (m : Moment) : String :=
  decimal m.date.year ++ "-" ++ padded 2 m.date.month ++ "-" ++ padded 2 m.date.day ++ " "
    ++ padded 2 m.time.hour ++ ":" ++ padded 2 m.time.minute ++ ":" ++ padded 2 m.time.second

end Moment
end DataLayer
