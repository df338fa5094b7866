import DataLayer.Calendar.Basic
import DataLayer.Proofs.Migration.FileName
import Mathlib.Algebra.Group.Nat.Defs
import Mathlib.Data.List.Lex
import Mathlib.Data.Nat.Init
import Mathlib.Order.Monotone.Basic
import Mathlib.Tactic.IntervalCases

/-! The order of moments, and of the columns in which they are written. The months of the calendar follow each other,
each as long as it is; main statements: of two moments that a clock can show, the one that comes first by the count of
seconds has the smaller year, or the smaller month of the same year, and so on down to the second; and rows of numbers
in columns of fixed widths are ordered as the numbers are. -/

namespace DataLayer

namespace Date

/-- The number of the first day of a month, where months are counted from the start of the year zero. -/
def firstDay (month : Nat) : Int := dayNumber ⟨month / 12, month % 12 + 1, 1⟩

/-- The next month begins after the days of this one. -/
theorem firstDay_succ (month : Nat) : firstDay (month + 1) = firstDay month + daysIn (month / 12) (month % 12 + 1) := by
  obtain ⟨year, part, rfl, small⟩ : ∃ year part, month = 12 * year + part ∧ part < 12 :=
    ⟨month / 12, month % 12, (Nat.div_add_mod month 12).symm, Nat.mod_lt month (by decide)⟩
  have own : (12 * year + part) / 12 = year ∧ (12 * year + part) % 12 = part := by omega
  have next : (12 * year + part + 1) / 12 = (if part = 11 then year + 1 else year) ∧
      (12 * year + part + 1) % 12 = (if part = 11 then 0 else part + 1) := by
    split <;> omega
  unfold firstDay
  rw [own.1, own.2, next.1, next.2]
  clear own next
  unfold dayNumber daysIn
  interval_cases part
  all_goals simp
  -- Only February has to know which years are leap years.
  case «1» => split <;> omega
  all_goals omega

theorem firstDay_le {first later : Nat} (before : first ≤ later) : firstDay first ≤ firstDay later := by
  refine monotone_nat_of_le_succ (fun month => ?_) before
  rw [firstDay_succ]
  omega

/-- Holds of the days of the calendar. -/
structure IsDay (d : Date) : Prop where
  month : 1 ≤ d.month ∧ d.month ≤ 12
  day : 1 ≤ d.day ∧ d.day ≤ daysIn d.year d.month

/-- The number of the month that a day lies in. -/
def monthNumber (d : Date) : Nat := 12 * d.year + (d.month - 1)

theorem dayNumber_eq {d : Date} (isDay : d.IsDay) : d.dayNumber = firstDay d.monthNumber + d.day - 1 := by
  have month := isDay.month
  have own : d.monthNumber / 12 = d.year ∧ d.monthNumber % 12 + 1 = d.month := by
    unfold monthNumber
    omega
  unfold firstDay
  rw [own.1, own.2]
  unfold dayNumber
  dsimp only
  omega

/-- Days come in the order of their years, months, and days of the month. -/
theorem dayNumber_lt {first second : Date} (isDay : first.IsDay) (isDay' : second.IsDay)
    (earlier : first.year < second.year ∨ first.year = second.year ∧
      (first.month < second.month ∨ first.month = second.month ∧ first.day < second.day)) :
    first.dayNumber < second.dayNumber := by
  have month := isDay.month
  have month' := isDay'.month
  have day := isDay.day
  have day' := isDay'.day
  rw [dayNumber_eq isDay, dayNumber_eq isDay']
  by_cases same : first.monthNumber = second.monthNumber
  · rw [same]
    unfold monthNumber at same
    omega
  · have before : first.monthNumber + 1 ≤ second.monthNumber := by
      unfold monthNumber at same ⊢
      omega
    have begins := firstDay_le before
    have own : first.monthNumber / 12 = first.year ∧ first.monthNumber % 12 + 1 = first.month := by
      unfold monthNumber
      omega
    rw [firstDay_succ, own.1, own.2] at begins
    omega

end Date

namespace Moment

theorem OnClock.isDay {m : Moment} (clock : m.OnClock) : m.date.IsDay := ⟨clock.month, clock.day⟩

/-- What a clock shows, from the year down to the second. -/
def fields (m : Moment) : List Nat :=
  [m.date.year, m.date.month, m.date.day, m.time.hour, m.time.minute, m.time.second]

theorem seconds_lt {first second : Moment} (clock : first.OnClock) (clock' : second.OnClock)
    (earlier : first.fields < second.fields) : first.seconds < second.seconds := by
  have hour := clock.hour
  have minute := clock.minute
  have last := clock.second
  have hour' := clock'.hour
  have minute' := clock'.minute
  have last' := clock'.second
  simp only [fields, List.cons_lt_cons_iff, List.not_lt_nil, and_false, or_false] at earlier
  unfold seconds
  by_cases same : first.date.year = second.date.year ∧ first.date.month = second.date.month ∧
      first.date.day = second.date.day
  · have equal : first.date.dayNumber = second.date.dayNumber := by
      unfold Date.dayNumber
      rw [same.1, same.2.1, same.2.2]
    omega
  · have before : first.date.dayNumber < second.date.dayNumber := by
      apply Date.dayNumber_lt clock.isDay clock'.isDay
      omega
    omega

/-- The moment with fewer seconds has the smaller fields. -/
theorem fields_lt {first second : Moment} (clock : first.OnClock) (clock' : second.OnClock)
    (earlier : first.seconds < second.seconds) : first.fields < second.fields := by
  by_contra late
  rcases lt_trichotomy first.fields second.fields with before | same | after
  · exact late before
  · have equal : first.seconds = second.seconds := by
      simp only [fields, List.cons.injEq, and_true] at same
      obtain ⟨year, month, day, hour, minute, second⟩ := same
      unfold seconds Date.dayNumber
      rw [year, month, day, hour, minute, second]
    omega
  · have back := seconds_lt clock' clock after
    omega

end Moment
end DataLayer

/-! Rows of numbers that are written in columns of fixed widths. They are ordered as the numbers in them, whatever
follows them. -/

namespace DataLayer.Text

/-- What is smaller before the end of either text stays so, whatever follows. -/
theorem append_lt_append {first second : List Char} (less : first < second) (level : first.length = second.length)
    (more other : List Char) : first ++ more < second ++ other := by
  induction first generalizing second with
  | nil =>
    rw [List.length_eq_zero_iff.mp level.symm] at less
    exact absurd less (List.not_lt_nil _)
  | cons c first ih =>
    cases second with
    | nil => cases level
    | cons d second =>
      rw [List.cons_append, List.cons_append, List.cons_lt_cons_iff]
      rcases List.cons_lt_cons_iff.mp less with smaller | ⟨same, later⟩
      · exact .inl smaller
      · exact .inr ⟨same, ih later (Nat.succ.inj level)⟩

theorem length_padded {width n : Nat} (filled : 0 < width) (fits : n < 10 ^ width) : (padded width n).toList.length = width :=
  (digits_padded ((Nat.length_toDigits_le_iff (by decide) filled).mpr fits)).1

theorem digitChar_lt : ∀ first second : Fin 10, first < second → Nat.digitChar first < Nat.digitChar second := by decide

/-- The last digit of a filled number stands in a column of its own. -/
theorem padded_succ {width : Nat} (filled : 0 < width) (n : Nat) :
    (padded (width + 1) n).toList = (padded width (n / 10)).toList ++ [Nat.digitChar (n % 10)] := by
  unfold padded
  rw [String.toList_ofList, String.toList_ofList]
  by_cases small : n < 10
  · obtain ⟨width, rfl⟩ := Nat.exists_eq_add_one_of_ne_zero (Nat.ne_zero_of_lt filled)
    rw [Nat.toDigits_of_lt_base small, Nat.div_eq_of_lt small, Nat.mod_eq_of_lt small]
    simp [List.replicate_succ']
  · rw [Nat.toDigits_of_base_le (by decide) (Nat.le_of_not_lt small), List.length_append, List.length_singleton,
      Nat.add_sub_add_right, List.append_assoc]

/-- Numbers that fit into a column are ordered as their texts are. -/
theorem padded_lt {width first second : Nat} (filled : 0 < width) (less : first < second) (fits : second < 10 ^ width) :
    (padded width first).toList < (padded width second).toList := by
  induction width, filled using Nat.le_induction generalizing first second with
  | base =>
    have digit {n : Nat} (small : n < 10) : (padded 1 n).toList = [Nat.digitChar n] := by
      rw [padded, String.toList_ofList, Nat.toDigits_of_lt_base small]
      rfl
    rw [digit (by omega), digit fits, List.cons_lt_cons_iff]
    exact .inl (digitChar_lt ⟨first, by omega⟩ ⟨second, fits⟩ less)
  | succ width filled ih =>
    rw [padded_succ filled, padded_succ filled]
    have above : second / 10 < 10 ^ width := by
      rw [Nat.pow_succ] at fits
      omega
    by_cases same : first / 10 = second / 10
    · rw [same]
      apply List.append_left_lt
      rw [List.cons_lt_cons_iff]
      exact .inl (digitChar_lt ⟨first % 10, by omega⟩ ⟨second % 10, by omega⟩ (show first % 10 < second % 10 by omega))
    · have before : first / 10 < second / 10 := by omega
      apply append_lt_append (ih before above)
      rw [length_padded filled (by omega), length_padded filled above]

/-- Numbers in columns, each of them a width and what stands after it. -/
def inColumns (layout : List (Nat × List Char)) (numbers : List Nat) : List Char :=
  (layout.zipWith (fun column n => (padded column.1 n).toList ++ column.2) numbers).flatten

/-- Holds of rows of numbers that fit into their columns. -/
def FitsColumns (layout : List (Nat × List Char)) (numbers : List Nat) : Prop :=
  List.Forall₂ (fun column n => 0 < column.1 ∧ n < 10 ^ column.1) layout numbers

/-- Rows in columns are ordered as their numbers, whatever follows them. -/
theorem inColumns_lt {layout : List (Nat × List Char)} {first second : List Nat} (fits : FitsColumns layout first)
    (fits' : FitsColumns layout second) (less : first < second) (more other : List Char) :
    inColumns layout first ++ more < inColumns layout second ++ other := by
  induction fits generalizing second with
  | nil =>
    cases fits'
    exact absurd less (List.not_lt_nil _)
  | @cons column n layout first own later ih =>
    cases fits' with
    | @cons _ n' _ second own' later' =>
      have split (n : Nat) (numbers : List Nat) (rest : List Char) : inColumns (column :: layout) (n :: numbers) ++ rest =
          (padded column.1 n).toList ++ (column.2 ++ (inColumns layout numbers ++ rest)) := by
        simp [inColumns]
      rw [split, split]
      rcases List.cons_lt_cons_iff.mp less with smaller | ⟨rfl, behind⟩
      · apply append_lt_append (padded_lt own.1 smaller own'.2)
        rw [length_padded own.1 own.2, length_padded own.1 own'.2]
      · apply List.append_left_lt
        apply List.append_left_lt
        exact ih later' behind

end DataLayer.Text
