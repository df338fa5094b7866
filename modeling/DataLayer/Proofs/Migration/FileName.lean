import DataLayer.Migration.Create
import DataLayer.Proofs.Folder.Changing
import Mathlib.Data.List.Basic

/-! The names that new migrations get, and the names that migrations are found by. A stamp is a row of digits of
fixed lengths, apart from the year; main statement: the name of a new file is one that migrations are found by
exactly when its year has four digits and its letters are basic ones. -/

namespace DataLayer

open DataLayer.Text

/-- A moment that a clock can show. -/
structure Moment.OnClock (m : Moment) : Prop where
  year : 1 ≤ m.date.year ∧ m.date.year ≤ 9999
  month : 1 ≤ m.date.month ∧ m.date.month ≤ 12
  day : 1 ≤ m.date.day ∧ m.date.day ≤ Date.daysIn m.date.year m.date.month
  hour : m.time.hour ≤ 23
  minute : m.time.minute ≤ 59
  second : m.time.second ≤ 59

theorem Date.daysIn_le (year month : Nat) : Date.daysIn year month ≤ 31 := by
  unfold Date.daysIn
  split
  · split <;> omega
  · split <;> omega

namespace Text

/-- Holds of texts of basic letters. -/
def isBasic (text : String) : Bool := text.toList.all fun c => c.toNat < 128

theorem normalForm_basic {text : String} (basic : isBasic text = true) : normalForm text = text :=
  if_pos basic

/-- Holds of rows of so many digits. -/
def Digits (count : Nat) (chars : List Char) : Prop := chars.length = count ∧ ∀ c ∈ chars, c.isDigit = true

theorem digits_append {count more : Nat} {first second : List Char} (one : Digits count first)
    (two : Digits more second) : Digits (count + more) (first ++ second) := by
  obtain ⟨length, digits⟩ := one
  obtain ⟨length', digits'⟩ := two
  refine ⟨by rw [List.length_append, length, length'], fun c member => ?_⟩
  rcases List.mem_append.mp member with early | late
  · exact digits c early
  · exact digits' c late

theorem digits_toDigits (n : Nat) : Digits (Nat.toDigits 10 n).length (Nat.toDigits 10 n) :=
  ⟨rfl, fun _ member => Nat.isDigit_of_mem_toDigits (by decide) (by decide) member⟩

/-- A number that is not too large for its width fills it. -/
theorem digits_padded {width n : Nat} (short : (Nat.toDigits 10 n).length ≤ width) :
    Digits width (padded width n).toList := by
  have zeros : Digits (width - (Nat.toDigits 10 n).length)
      (List.replicate (width - (Nat.toDigits 10 n).length) '0') := by
    refine ⟨List.length_replicate, fun c member => ?_⟩
    rw [List.eq_of_mem_replicate member]
    rfl
  have whole := digits_append zeros (digits_toDigits n)
  rw [Nat.sub_add_cancel short] at whole
  rwa [padded, String.toList_ofList]

theorem isUpper_iff {c : Char} : c.isUpper = true ↔ 65 ≤ c.toNat ∧ c.toNat ≤ 90 := by
  have bounds : c.isUpper = decide (65 ≤ c.toNat ∧ c.toNat ≤ 90) := rfl
  rw [bounds, decide_eq_true_iff]

theorem isLower_iff {c : Char} : c.isLower = true ↔ 97 ≤ c.toNat ∧ c.toNat ≤ 122 := by
  have bounds : c.isLower = (decide (97 ≤ c.toNat) && decide (c.toNat ≤ 122)) := rfl
  rw [bounds, Bool.and_eq_true, decide_eq_true_iff, decide_eq_true_iff]

theorem isDigit_iff {c : Char} : c.isDigit = true ↔ 48 ≤ c.toNat ∧ c.toNat ≤ 57 := by
  have bounds : c.isDigit = (decide (48 ≤ c.toNat) && decide (c.toNat ≤ 57)) := rfl
  rw [bounds, Bool.and_eq_true, decide_eq_true_iff, decide_eq_true_iff]

theorem isDigit_of_isDigit {c : Char} (digit : c.isDigit = true) : Text.isDigit c = true := by
  refine List.any_eq_true.mpr ⟨(0x30, 0x39), List.mem_cons_self, ?_⟩
  simpa using isDigit_iff.mp digit

end Text

namespace Migration

/-- Holds of the characters that the name of a migration file can start with. -/
def isNameStart (c : Char) : Bool := c.isAlpha || c == '_'

/-- Holds of the characters that the name of a migration file can have. -/
def isNameChar (c : Char) : Bool := isPlain c || c == '_'

theorem isNameStart_iff {c : Char} : isNameStart c = true ↔ (65 ≤ c.toNat ∧ c.toNat ≤ 90) ∨
    (97 ≤ c.toNat ∧ c.toNat ≤ 122) ∨ c.toNat = 95 := by
  have whole : isNameStart c = (c.isUpper || c.isLower || c == '_') := rfl
  rw [whole, Bool.or_eq_true, Bool.or_eq_true, isUpper_iff, isLower_iff, beq_iff_eq, ← Char.toNat_inj, or_assoc]
  rfl

theorem isNameChar_iff {c : Char} : isNameChar c = true ↔ isNameStart c = true ∨ c.isDigit = true := by
  simp only [isNameChar, isNameStart, isPlain, Bool.or_eq_true]
  exact or_right_comm

theorem basic_of_isNameChar {c : Char} (nameChar : isNameChar c = true) : c.toNat < 128 := by
  rcases isNameChar_iff.mp nameChar with start | digit
  · have bounds := isNameStart_iff.mp start
    omega
  · have bounds := isDigit_iff.mp digit
    omega

/-- The ranges of identifier characters that reach into the basic ones. -/
theorem identifierStarts_basic : (identifierStarts.filter fun range => range.1 < 128) =
    [(0x41, 0x5a), (0x5f, 0x5f), (0x61, 0x7a)] := by
  decide +kernel

theorem identifierContinues_basic : (identifierContinues.filter fun range => range.1 < 128) =
    [(0x30, 0x39), (0x41, 0x5a), (0x5f, 0x5f), (0x61, 0x7a)] := by
  decide +kernel

/-- A basic character that starts an identifier can start the name of a file. -/
theorem isNameStart_of_basic {c : Char} (basic : c.toNat < 128) (start : isIdentifierStart c = true) :
    isNameStart c = true := by
  obtain ⟨range, member, bounds⟩ := List.any_eq_true.mp start
  simp only [Bool.and_eq_true, decide_eq_true_eq] at bounds
  have listed : range ∈ identifierStarts.filter fun range => range.1 < 128 :=
    List.mem_filter.mpr ⟨member, decide_eq_true (by omega)⟩
  rw [identifierStarts_basic] at listed
  simp only [List.mem_cons, List.not_mem_nil, or_false] at listed
  rw [isNameStart_iff]
  rcases listed with rfl | rfl | rfl <;> omega

/-- A basic character of an identifier can stand in the name of a file. -/
theorem isNameChar_of_basic {c : Char} (basic : c.toNat < 128) (inside : isIdentifierChar c = true) :
    isNameChar c = true := by
  obtain ⟨range, member, bounds⟩ := List.any_eq_true.mp inside
  simp only [Bool.and_eq_true, decide_eq_true_eq] at bounds
  have listed : range ∈ identifierContinues.filter fun range => range.1 < 128 :=
    List.mem_filter.mpr ⟨member, decide_eq_true (by omega)⟩
  rw [identifierContinues_basic] at listed
  simp only [List.mem_cons, List.not_mem_nil, or_false] at listed
  rw [isNameChar_iff, isNameStart_iff, isDigit_iff]
  rcases listed with rfl | rfl | rfl | rfl <;> omega

/-- A basic character that no file name has is in no identifier. -/
theorem not_mem_identifier {word : String} {c : Char} (word_ok : isIdentifier word = true) (basic : c.toNat < 128)
    (foreign : isNameChar c = false) : c ∉ word.toList := by
  intro member
  unfold isIdentifier at word_ok
  cases spelt : word.toList with
  | nil =>
    rw [spelt] at word_ok
    cases word_ok
  | cons first rest =>
    rw [spelt] at word_ok member
    obtain ⟨start, inside⟩ := Bool.and_eq_true_iff.mp word_ok
    rw [Bool.eq_false_iff] at foreign
    rcases List.mem_cons.mp member with rfl | later
    · exact foreign (isNameChar_iff.mpr (.inl (isNameStart_of_basic basic start)))
    · exact foreign (isNameChar_of_basic basic (List.all_eq_true.mp inside c later))

/-- What is dropped from a row reaches as far as a character that the row does not have. -/
theorem all_of_dropWhile {keep : Char → Bool} {chars rest tail : List Char} {stop : Char} (apart : stop ∉ chars)
    (dropped : (chars ++ rest).dropWhile keep = stop :: tail) : ∀ c ∈ chars, keep c = true := by
  induction chars with
  | nil => exact fun _ member => nomatch member
  | cons c more ih =>
    obtain ⟨first, later⟩ := List.ne_and_not_mem_of_not_mem_cons apart
    rw [List.cons_append, List.dropWhile_cons] at dropped
    split at dropped
    next kept => exact List.forall_mem_cons.mpr ⟨kept, ih later dropped⟩
    next => exact absurd (List.cons.inj dropped).1.symm first

/-- A name with its ending is one that migrations are found by exactly when it is of basic letters. -/
theorem isNameWithEnding_identifier {word : String} (identifier : isIdentifier word = true) :
    isNameWithEnding (word.toList ++ ".py".toList) = isBasic word := by
  have pointless : '.' ∉ word.toList := not_mem_identifier identifier (by decide) (by decide)
  unfold isIdentifier at identifier
  unfold isBasic
  cases spelt : word.toList with
  | nil =>
    rw [spelt] at identifier
    cases identifier
  | cons first rest =>
    rw [spelt] at identifier pointless
    obtain ⟨start, inside⟩ := Bool.and_eq_true_iff.mp identifier
    rw [List.cons_append, isNameWithEnding, Bool.eq_iff_iff, List.all_eq_true]
    simp only [decide_eq_true_eq]
    constructor
    · intro named
      obtain ⟨letter, ended⟩ := Bool.and_eq_true_iff.mp named
      have kept : ∀ c ∈ rest, isNameChar c = true := by
        have later := (List.ne_and_not_mem_of_not_mem_cons pointless).2
        rcases Bool.or_eq_true_iff.mp ended with plain | closed
        · exact all_of_dropWhile later (beq_iff_eq.mp plain)
        · exact all_of_dropWhile later (beq_iff_eq.mp closed)
      exact List.forall_mem_cons.mpr ⟨basic_of_isNameChar (isNameChar_iff.mpr (.inl letter)),
        fun c member => basic_of_isNameChar (kept c member)⟩
    · intro basic
      obtain ⟨first_basic, rest_basic⟩ := List.forall_mem_cons.mp basic
      have kept : ∀ c ∈ rest, isNameChar c = true := fun c member =>
        isNameChar_of_basic (rest_basic c member) (List.all_eq_true.mp inside c member)
      have dropped : (rest ++ ".py".toList).dropWhile (fun c => isPlain c || c == '_') = ".py".toList :=
        (List.dropWhile_append_of_pos kept).trans (by decide)
      simp only [dropped, beq_self_eq_true, Bool.true_or, Bool.and_true]
      exact isNameStart_of_basic first_basic start

theorem dropDigits_append {count : Nat} {digits : List Char} (whole : Digits count digits) (rest : List Char) :
    dropDigits count (digits ++ rest) = some rest := by
  obtain ⟨rfl, digit⟩ := whole
  induction digits with
  | nil => rfl
  | cons c more ih =>
    obtain ⟨first, later⟩ := List.forall_mem_cons.mp digit
    rw [List.length_cons, List.cons_append, dropDigits, isDigit_of_isDigit first, if_pos rfl]
    exact ih later

/-- An underscore comes too early for a row of digits that is longer. -/
theorem dropDigits_short {count fewer : Nat} {digits : List Char} (part : Digits fewer digits) (short : fewer < count)
    (rest : List Char) : dropDigits count (digits ++ '_' :: rest) = none := by
  obtain ⟨rfl, digit⟩ := part
  induction digits generalizing count with
  | nil =>
    obtain ⟨less, rfl⟩ := Nat.exists_eq_add_one_of_ne_zero (Nat.ne_zero_of_lt short)
    rfl
  | cons c more ih =>
    obtain ⟨less, rfl⟩ := Nat.exists_eq_add_one_of_ne_zero (Nat.ne_zero_of_lt short)
    obtain ⟨first, later⟩ := List.forall_mem_cons.mp digit
    rw [List.cons_append, dropDigits, isDigit_of_isDigit first, if_pos rfl]
    exact ih later (Nat.lt_of_succ_lt_succ short)

/-- A stamp: the digits of the year, of the month, of the day, and of the time of day. -/
theorem stamp_digits {m : Moment} (clock : m.OnClock) : ∃ year month day time,
    m.stamp.toList = year ++ '_' :: (month ++ '_' :: (day ++ '_' :: time)) ∧
      Digits (Nat.toDigits 10 m.date.year).length year ∧ Digits 2 month ∧ Digits 2 day ∧ Digits 6 time := by
  have two (n : Nat) (fits : n ≤ 99) : Digits 2 (padded 2 n).toList :=
    digits_padded ((Nat.length_toDigits_le_iff (by decide) (by decide)).mpr (by omega))
  have month := clock.month.2
  have day := Nat.le_trans clock.day.2 (Date.daysIn_le _ _)
  have hour := clock.hour
  have minute := clock.minute
  have second := clock.second
  have time := digits_append (two m.time.hour (by omega))
    (digits_append (two m.time.minute (by omega)) (two m.time.second (by omega)))
  refine ⟨_, _, _, _, ?_, digits_toDigits _, two m.date.month (by omega), two m.date.day (by omega), time⟩
  simp [Moment.stamp, decimal]

/-- A year of the calendar is written with four digits unless it is one of the first thousand. -/
theorem length_year {m : Moment} (clock : m.OnClock) :
    if 1000 ≤ m.date.year then (Nat.toDigits 10 m.date.year).length = 4
    else (Nat.toDigits 10 m.date.year).length < 4 := by
  have atMost := Nat.length_toDigits_le_iff (b := 10) (n := m.date.year) (k := 4) (by decide) (by decide)
  have fewer := Nat.length_toDigits_le_iff (b := 10) (n := m.date.year) (k := 3) (by decide) (by decide)
  have year := clock.year
  split
  · omega
  · omega

theorem fileName_toList (stamp word : String) :
    (fileName stamp word).toList = stamp.toList ++ '_' :: (word.toList ++ ".py".toList) := by
  simp [fileName]

theorem dropStamp_fileName {m : Moment} (clock : m.OnClock) (word : String) :
    dropStamp (fileName m.stamp word).toList =
      if 1000 ≤ m.date.year then some (word.toList ++ ".py".toList) else none := by
  obtain ⟨year, month, day, time, spelt, years, months, days, times⟩ := stamp_digits clock
  have length := length_year clock
  rw [fileName_toList, spelt]
  simp only [List.append_assoc, List.cons_append]
  unfold dropStamp
  split
  next late =>
    rw [if_pos late] at length
    rw [length] at years
    rw [dropDigits_append years]
    change (dropDigits 2 (month ++ _) >>= dropUnderscore) >>= _ = _
    rw [dropDigits_append months]
    change (dropDigits 2 (day ++ _) >>= dropUnderscore) >>= _ = _
    rw [dropDigits_append days]
    change dropDigits 6 (time ++ _) >>= dropUnderscore = _
    rw [dropDigits_append times]
    rfl
  next early =>
    rw [if_neg early] at length
    rw [dropDigits_short years length]
    rfl

/-- Holds of moments and names from which a new file gets a name that migrations are found by: the year has four
digits, and the letters are basic ones. -/
def isFindable (m : Moment) (word : String) : Bool := decide (1000 ≤ m.date.year) && isBasic word

theorem isFileName_fileName {m : Moment} (clock : m.OnClock) {word : String} (identifier : isIdentifier word = true) :
    isFileName (fileName m.stamp word) = isFindable m word := by
  unfold isFileName isFindable
  rw [dropStamp_fileName clock]
  by_cases late : 1000 ≤ m.date.year
  · rw [if_pos late, decide_eq_true late, Bool.true_and]
    exact isNameWithEnding_identifier identifier
  · rw [if_neg late, decide_eq_false late, Bool.false_and]

/-- A new file is named by a single part of a path. -/
theorem isName_fileName {m : Moment} (clock : m.OnClock) {word : String} (identifier : isIdentifier word = true) :
    Path.IsName (fileName m.stamp word) := by
  have joined : '_' ∈ (fileName m.stamp word).toList := by
    rw [fileName_toList]
    exact List.mem_append_right _ List.mem_cons_self
  have absent {c : Char} (basic : c.toNat < 128) (digit : c.isDigit = false) (foreign : isNameChar c = false)
      (ending : c ∉ ".py".toList) : c ∉ (fileName m.stamp word).toList := by
    have other : c ≠ '_' := by
      rintro rfl
      cases foreign
    have none {count : Nat} {chars : List Char} (digits : Digits count chars) : c ∉ chars := fun member => by
      rw [digits.2 c member] at digit
      cases digit
    obtain ⟨year, month, day, time, spelt, years, months, days, times⟩ := stamp_digits clock
    rw [fileName_toList, spelt]
    simp only [List.mem_append, List.mem_cons, not_or]
    exact ⟨⟨none years, other, none months, other, none days, other, none times⟩, other,
      not_mem_identifier identifier basic foreign, ending⟩
  exact {
    filled := fun same => by rw [same] at joined; cases joined
    moving := fun same => by rw [same] at joined; revert joined; decide
    below := fun same => by rw [same] at joined; revert joined; decide
    whole := absent (by decide) (by decide) (by decide) (by decide)
    clean := absent (by decide) (by decide) (by decide) (by decide) }

theorem dropDigits_mem {count : Nat} {chars rest : List Char} (dropped : dropDigits count chars = some rest) :
    ∀ c ∈ chars, isDigit c = true ∨ c ∈ rest := by
  induction count generalizing chars with
  | zero =>
    cases dropped
    exact fun c member => .inr member
  | succ count ih =>
    cases chars with
    | nil => cases dropped
    | cons first chars =>
      unfold dropDigits at dropped
      split at dropped
      next digit =>
        intro c member
        rcases List.mem_cons.mp member with rfl | member
        · exact .inl digit
        · exact ih dropped c member
      next => cases dropped

theorem dropUnderscore_mem {chars rest : List Char} (dropped : dropUnderscore chars = some rest) :
    ∀ c ∈ chars, c = '_' ∨ c ∈ rest := by
  unfold dropUnderscore at dropped
  split at dropped
  next rest =>
    cases dropped
    exact fun c member => List.mem_cons.mp member
  next => cases dropped

/-- A stamp has digits and underscores. -/
theorem dropStamp_mem {chars rest : List Char} (dropped : dropStamp chars = some rest) :
    ∀ c ∈ chars, isDigit c = true ∨ c = '_' ∨ c ∈ rest := by
  have part {count : Nat} {chars rest : List Char} (dropped : (dropDigits count chars >>= dropUnderscore) = some rest) :
      ∀ c ∈ chars, isDigit c = true ∨ c = '_' ∨ c ∈ rest := by
    obtain ⟨between, digits, underscore⟩ := Option.bind_eq_some_iff.mp dropped
    intro c member
    rcases dropDigits_mem digits c member with digit | later
    · exact .inl digit
    · exact .inr (dropUnderscore_mem underscore c later)
  unfold dropStamp at dropped
  obtain ⟨afterYear, year, dropped⟩ := Option.bind_eq_some_iff.mp dropped
  obtain ⟨afterMonth, month, dropped⟩ := Option.bind_eq_some_iff.mp dropped
  obtain ⟨afterDay, day, time⟩ := Option.bind_eq_some_iff.mp dropped
  intro c member
  rcases part year c member with digit | rfl | member
  · exact .inl digit
  · exact .inr (.inl rfl)
  rcases part month c member with digit | rfl | member
  · exact .inl digit
  · exact .inr (.inl rfl)
  rcases part day c member with digit | rfl | member
  · exact .inl digit
  · exact .inr (.inl rfl)
  exact part time c member

/-- The characters that names of migration files have: digits of any script, basic letters and digits, and those
of the underscores and the ending. -/
def isFileNameChar (c : Char) : Bool := isDigit c || isNameChar c || c == '.' || c == '\n'

theorem isNameWithEnding_mem {chars : List Char} (named : isNameWithEnding chars = true) :
    ∀ c ∈ chars, isFileNameChar c = true := by
  cases chars with
  | nil => cases named
  | cons first rest =>
    rw [isNameWithEnding, Bool.and_eq_true_iff] at named
    obtain ⟨start, ended⟩ := named
    have ending : ∀ c ∈ rest.dropWhile isNameChar, isFileNameChar c = true := by
      rcases Bool.or_eq_true_iff.mp ended with plain | closed
      · rw [show rest.dropWhile isNameChar = _ from beq_iff_eq.mp plain]
        exact List.all_eq_true.mp (by decide)
      · rw [show rest.dropWhile isNameChar = _ from beq_iff_eq.mp closed]
        exact List.all_eq_true.mp (by decide)
    intro c member
    rcases List.mem_cons.mp member with rfl | member
    · have letter : isNameChar c = true := isNameChar_iff.mpr (.inl start)
      simp [isFileNameChar, letter]
    · rw [← List.takeWhile_append_dropWhile (p := isNameChar) (l := rest)] at member
      rcases List.mem_append.mp member with body | last
      · have kept := List.all_eq_true.mp List.all_takeWhile c body
        simp [isFileNameChar, kept]
      · exact ending c last

/-- The names that are discovered have no other characters. -/
theorem isFileName_mem {name : String} (named : isFileName name = true) :
    ∀ c ∈ name.toList, isFileNameChar c = true := by
  unfold isFileName at named
  split at named
  next rest stamp =>
    intro c member
    rcases dropStamp_mem stamp c member with digit | rfl | later
    · simp [isFileNameChar, digit]
    · decide
    · exact isNameWithEnding_mem named c later
  next => cases named

/-- A name that is discovered is a single part of a path. -/
theorem isName_of_isFileName {name : String} (named : isFileName name = true) : Path.IsName name := by
  have absent {c : Char} (foreign : isFileNameChar c = false) : c ∉ name.toList := fun member => by
    rw [isFileName_mem named c member] at foreign
    cases foreign
  have short {other : String} (unnamed : isFileName other = false) : name ≠ other := fun same => by
    rw [same, unnamed] at named
    cases named
  exact {
    filled := short rfl
    moving := short rfl
    below := short rfl
    whole := absent (by decide)
    clean := absent (by decide) }

theorem isSuffixOf_fileName (stamp word : String) : ".py".toList.isSuffixOf (fileName stamp word).toList = true := by
  rw [List.isSuffixOf_iff_suffix, fileName_toList, ← List.cons_append, ← List.append_assoc]
  exact List.suffix_append _ _

end Migration
end DataLayer
