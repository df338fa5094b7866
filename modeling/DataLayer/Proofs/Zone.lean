import DataLayer.Database.Connect
import DataLayer.Proofs.Calendar

/-! The offset of a zone as a session is told of it. A session takes sign, two digits for the hours, a colon, and two
digits for the minutes, and nothing else. Main statement: whatever the zone and the moment, the text begins with the
whole minutes of the offset in this form, and it has the form exactly when the offset has no seconds beside them. -/

namespace DataLayer.Zone

open DataLayer.Database DataLayer.Text

/-! Offsets of zones. All of them are shorter than a day. -/

/-- The offset that the zone of a name has at a moment. -/
def offset? (name : String) (moment : Int) : Option Int :=
  match find name with
  | .found clock => some (clock.offsetAt moment)
  | _ => none

theorem offset?_eq_some {name : String} {moment offset : Int} :
    offset? name moment = some offset ↔ ∃ clock, find name = .found clock ∧ clock.offsetAt moment = offset := by
  unfold offset?
  split <;> simp_all

/-- Holds of offsets that are shorter than a day. -/
def isShort (offset : Int) : Bool := offset.natAbs < 86400

/-- Holds of entries all of whose offsets are short. -/
def Entry.isShort (entry : Entry) : Bool :=
  entry.offsets.all Zone.isShort && entry.rule.all fun rule => Zone.isShort rule.standard && Zone.isShort rule.summer

theorem entries_short : entries.all Entry.isShort = true := by decide +kernel

/-- The offsets of an entry, and that of universal time where a letter stands for none. -/
theorem getD_short {offsets : List Int} (short : offsets.all isShort = true) (place : Nat) :
    isShort (offsets.getD place 0) = true := by
  rw [List.getD_eq_getElem?_getD]
  cases held : offsets[place]? with
  | none => rfl
  | some offset => exact List.all_eq_true.mp short offset (List.mem_of_getElem? held)

theorem readChanges_short {offsets : List Int} (short : offsets.all isShort = true) (time : Int) (quarters rest : Nat)
    (pointed : Bool) (chars : List Char) :
    ∀ change ∈ readChanges offsets time quarters rest pointed chars, isShort change.2 = true := by
  fun_induction readChanges offsets time quarters rest pointed chars with
  | case1 => nofun
  | case2 _ _ _ _ _ _ _ ih => exact ih
  | case3 _ _ _ _ _ _ _ _ _ ih => exact ih
  | case4 _ _ _ _ _ _ ih => exact ih
  | case5 _ _ _ _ _ _ _ _ _ ih => exact List.forall_mem_cons.mpr ⟨getD_short short _, ih⟩

theorem offsetAfter_short {moment offset : Int} {changes : List (Int × Int)} (short : isShort offset = true)
    (each : ∀ change ∈ changes, isShort change.2 = true) : isShort (offsetAfter moment offset changes) = true := by
  induction changes generalizing offset with
  | nil => exact short
  | cons change rest ih =>
    obtain ⟨here, later⟩ := List.forall_mem_cons.mp each
    unfold offsetAfter
    split
    · exact short
    · exact ih here later

theorem YearRule.offsetAt_short {rule : YearRule} (standard : isShort rule.standard = true)
    (summer : isShort rule.summer = true) (moment : Int) : isShort (rule.offsetAt moment) = true := by
  unfold offsetAt
  dsimp only
  split
  all_goals split <;> assumption

theorem Entry.offsetAt_short {entry : Entry} (short : entry.isShort = true) (moment : Int) :
    Zone.isShort (entry.clock.offsetAt moment) = true := by
  obtain ⟨offsets, rules⟩ := Bool.and_eq_true_iff.mp short
  have changing : Zone.isShort (offsetAfter moment entry.clock.before entry.clock.changes) = true := by
    refine offsetAfter_short ?_ (readChanges_short offsets _ _ _ _ _)
    change Zone.isShort (entry.offsets.headD 0) = true
    rw [List.headD_eq_head?_getD, List.head?_eq_getElem?, ← List.getD_eq_getElem?_getD]
    exact getD_short offsets 0
  have ruling {rule : YearRule} (own : entry.clock.rule = some rule) : Zone.isShort (rule.offsetAt moment) = true := by
    have named : entry.rule = some rule := own
    rw [named] at rules
    obtain ⟨standard, summer⟩ := Bool.and_eq_true_iff.mp rules
    exact rule.offsetAt_short standard summer moment
  unfold Clock.offsetAt
  split
  next own =>
    split
    · exact ruling own
    · exact changing
  next own => exact ruling own
  next => exact changing

theorem find_entry {name : String} {clock : Clock} (found : find name = .found clock) :
    ∃ entry ∈ entries, entry.clock = clock := by
  unfold find at found
  dsimp only at found
  repeat' split at found
  all_goals cases found
  next entry listed => exact ⟨entry, List.mem_of_find?_eq_some listed, rfl⟩

theorem offset?_lt {name : String} {moment offset : Int} (known : offset? name moment = some offset) :
    offset.natAbs < 86400 := by
  obtain ⟨clock, found, rfl⟩ := offset?_eq_some.mp known
  obtain ⟨entry, listed, rfl⟩ := find_entry found
  exact of_decide_eq_true (entry.offsetAt_short (List.all_eq_true.mp entries_short entry listed) moment)

/-! The form that a session takes. -/

/-- The number that a row of two digits spells. -/
def twoDigits? : List Char → Option Nat
  | [tens, ones] =>
    if tens.isDigit && ones.isDigit then some (10 * (tens.toNat - 48) + (ones.toNat - 48)) else none
  | _ => none

/-- The minutes that a text tells of as a session takes them: sign, two digits for the hours, a colon, and two digits
for the minutes. No other text tells of any. -/
def minutes? : List Char → Option Int
  | [sign, a, b, ':', c, d] => do
    let hours ← twoDigits? [a, b]
    let minutes ← twoDigits? [c, d]
    match sign with
    | '+' => some (60 * hours + minutes)
    | '-' => some (-(60 * hours + minutes))
    | _ => none
  | _ => none

/-- Only texts of six characters tell of minutes. -/
theorem minutes?_of_length {text : List Char} (long : text.length ≠ 6) : minutes? text = none := by
  unfold minutes?
  split
  · exact absurd rfl long
  · rfl

theorem twoDigits?_padded : ∀ n : Fin 100, twoDigits? (padded 2 n).toList = some n.val := by decide +kernel

/-- Two digits for the numbers that have no more. -/
theorem padded_two {n : Nat} (small : n < 100) :
    ∃ tens ones, (padded 2 n).toList = [tens, ones] ∧ twoDigits? [tens, ones] = some n := by
  have reads := twoDigits?_padded ⟨n, small⟩
  have length : (padded 2 n).toList.length = 2 := length_padded (by decide) small
  obtain ⟨tens, ones, spelled⟩ := List.length_eq_two.mp length
  rw [spelled] at reads
  exact ⟨tens, ones, spelled, reads⟩

/-- A whole number of minutes, and a sign before it. -/
theorem tdiv_sixty (offset : Int) :
    offset.tdiv 60 = if offset < 0 then -((offset.natAbs / 60 : Nat) : Int) else (offset.natAbs / 60 : Nat) := by
  split
  next negative =>
    obtain ⟨size, rfl⟩ := Int.exists_eq_neg_ofNat (Int.le_of_lt negative)
    rw [Int.neg_tdiv, Int.natAbs_neg, Int.natAbs_natCast]
    rfl
  next positive =>
    obtain ⟨size, rfl⟩ := Int.eq_ofNat_of_zero_le (Int.not_lt.mp positive)
    rfl

/-- What a session is told of begins with the whole minutes of the offset. The seconds beside them follow, if there
are any. -/
theorem sessionText_toList {offset : Int} (short : offset.natAbs < 86400) :
    ∃ front, minutes? front = some (offset.tdiv 60) ∧ front.length = 6 ∧
      (sessionText offset).toList = front ++ if 60 ∣ offset then [] else (padded 2 (offset.natAbs % 60)).toList := by
  obtain ⟨a, b, hours, reads⟩ := @padded_two (offset.natAbs / 3600) (by omega)
  obtain ⟨c, d, minutes, reads'⟩ := @padded_two (offset.natAbs / 60 % 60) (by omega)
  refine ⟨[if offset < 0 then '-' else '+', a, b, ':', c, d], ?_, rfl, ?_⟩
  · have whole : 60 * (offset.natAbs / 3600) + offset.natAbs / 60 % 60 = offset.natAbs / 60 := by omega
    rw [tdiv_sixty, ← whole]
    by_cases negative : offset < 0
    · rw [if_pos negative, if_pos negative]
      change (twoDigits? [a, b]).bind (fun hours => (twoDigits? [c, d]).bind fun minutes =>
        some (-(60 * (hours : Int) + minutes))) = _
      rw [reads, reads']
      rfl
    · rw [if_neg negative, if_neg negative]
      change (twoDigits? [a, b]).bind (fun hours => (twoDigits? [c, d]).bind fun minutes =>
        some (60 * (hours : Int) + minutes)) = _
      rw [reads, reads']
      rfl
  · have even : offset.natAbs % 60 = 0 ↔ 60 ∣ offset := by omega
    unfold sessionText
    simp only [String.toList_append, hours, minutes, even]
    by_cases negative : offset < 0 <;> by_cases whole : 60 ∣ offset <;> simp [negative, whole]

/-- The first six characters of the text always have the form, and the whole text has it when the offset has no
seconds. -/
structure Tells (text : String) (offset : Int) : Prop where
  front : minutes? (text.toList.take 6) = some (offset.tdiv 60)
  whole : minutes? text.toList = if 60 ∣ offset then some (offset.tdiv 60) else none

theorem tells_sessionText {offset : Int} (short : offset.natAbs < 86400) : Tells (sessionText offset) offset := by
  obtain ⟨front, reads, length, spelled⟩ := sessionText_toList short
  refine ⟨by rw [spelled, List.take_left' length, reads], ?_⟩
  rw [spelled]
  split
  next => rw [List.append_nil, reads]
  next =>
    refine minutes?_of_length ?_
    rw [List.length_append, length, length_padded (by decide) (by omega)]
    decide

/-! Moments. -/

/-- The seconds in universal time at which the offset is asked for: those of the given moment, or of now. -/
def instant (at? : Option Moment) (now : Moment) : Int :=
  match at? with
  | none => now.seconds
  | some moment =>
    match moment.time.offset with
    | some offset => (moment.micros - offset) / 1000000
    | none => moment.seconds

/-- The calendar has the moment, in universal time and on a clock with an offset. A moment without an offset of its own
does not lie on the first day. -/
structure Placed (at? : Option Moment) (now : Moment) (offset : Int) : Prop where
  universal : inCalendar (instant at? now) = true
  shown : inCalendar (instant at? now + offset) = true
  second : ∀ moment, at? = some moment → moment.time.offset = none → firstPlaced ≤ moment.seconds

theorem zoneOffset_found {zone : Value} {name : String} {clock : Clock} (named : zone.text? = some name)
    (found : find name = .found clock) (moment : Int) :
    zoneOffset zone moment =
      if inCalendar moment && inCalendar (moment + clock.offsetAt moment) then .ok (sessionText (clock.offsetAt moment))
      else .error (.misuse (.tooLarge "date value out of range")) := by
  unfold zoneOffset
  rw [named]
  dsimp only
  rw [found]

/-- The text is that of the offset, as long as the calendar has the moment. -/
theorem utcOffset_placed {zone : Value} {name : String} {at? : Option Moment} {now : Moment} {offset : Int}
    (named : zone.text? = some name) (known : offset? name (instant at? now) = some offset)
    (placed : Placed at? now offset) : utcOffset zone at? now = .ok (sessionText offset) := by
  obtain ⟨clock, found, same⟩ := offset?_eq_some.mp known
  have told : zoneOffset zone (instant at? now) = .ok (sessionText offset) := by
    rw [zoneOffset_found named found, same, placed.universal, placed.shown]
    rfl
  unfold utcOffset
  cases at? with
  | none => exact told
  | some moment =>
    unfold instant at told
    dsimp only at told ⊢
    cases own : moment.time.offset with
    | some shift =>
      rw [own] at told
      exact told
    | none =>
      have second := placed.second moment rfl own
      rw [own] at told
      dsimp only
      rw [max_eq_right second, told]
      exact if_neg (Int.not_lt.mpr second)

/-- Without a place in the calendar a moment is refused. -/
theorem utcOffset_unplaced {zone : Value} {name : String} {at? : Option Moment} {now : Moment} {offset : Int}
    (named : zone.text? = some name) (known : offset? name (instant at? now) = some offset)
    (unplaced : ¬ Placed at? now offset) : ∃ misuse, utcOffset zone at? now = .error (.misuse misuse) := by
  obtain ⟨clock, found, same⟩ := offset?_eq_some.mp known
  have refused (outside : ¬ (inCalendar (instant at? now) = true ∧ inCalendar (instant at? now + offset) = true)) :
      zoneOffset zone (instant at? now) = .error (.misuse (.tooLarge "date value out of range")) := by
    rw [zoneOffset_found named found, same]
    exact if_neg (by rwa [Bool.and_eq_true])
  unfold utcOffset
  cases at? with
  | none => exact ⟨_, refused fun inside => unplaced ⟨inside.1, inside.2, nofun⟩⟩
  | some moment =>
    dsimp only
    cases own : moment.time.offset with
    | some shift =>
      have outside := refused fun inside => unplaced ⟨inside.1, inside.2, fun other same bare => by
        cases same
        rw [own] at bare
        cases bare⟩
      unfold instant at outside
      dsimp only at outside
      rw [own] at outside
      exact ⟨_, outside⟩
    | none =>
      dsimp only
      by_cases second : firstPlaced ≤ moment.seconds
      · have outside := refused fun inside => unplaced ⟨inside.1, inside.2, fun other same _ => by
          cases same
          exact second⟩
        unfold instant at outside
        dsimp only at outside
        rw [own] at outside
        dsimp only at outside
        rw [max_eq_right second, outside]
        exact ⟨_, rfl⟩
      · rw [zoneOffset_found named found]
        cases inCalendar (max firstPlaced moment.seconds) &&
            inCalendar (max firstPlaced moment.seconds + clock.offsetAt (max firstPlaced moment.seconds)) with
        | true =>
          simp only [↓reduceIte, if_pos (Int.not_le.mp second)]
          exact ⟨_, rfl⟩
        | false => exact ⟨_, rfl⟩

/-- Whatever the zone and the moment, the text begins with the whole minutes of the offset, as a session takes them, and
the session takes the text exactly when there are no seconds beside them. A moment that the calendar does not have is
refused. -/
theorem utcOffset_tells {zone : Value} {name : String} {at? : Option Moment} {now : Moment} {offset : Int}
    (named : zone.text? = some name) (known : offset? name (instant at? now) = some offset) :
    (Placed at? now offset → ∃ text, utcOffset zone at? now = .ok text ∧ Tells text offset) ∧
      (¬ Placed at? now offset → ∃ misuse, utcOffset zone at? now = .error (.misuse misuse)) :=
  ⟨fun placed => ⟨_, utcOffset_placed named known placed, tells_sessionText (offset?_lt known)⟩,
    utcOffset_unplaced named known⟩

/-- Two and three quarters of an hour ahead of universal time. -/
theorem utcOffset_tells_quarter :
    let noon : Moment := ⟨⟨1940, 1, 15⟩, ⟨12, 0, 0, 0, some 0⟩⟩
    offset? "Africa/Nairobi" (instant (some noon) noon) = some 9900 ∧ Placed (some noon) noon 9900 ∧
      ∃ text, utcOffset (.text "Africa/Nairobi") (some noon) noon = .ok text ∧ minutes? text.toList = some 165 := by
  intro noon
  have known : offset? "Africa/Nairobi" (instant (some noon) noon) = some 9900 := by decide +kernel
  have placed : Placed (some noon) noon 9900 := ⟨by decide, by decide, fun moment same bare => by cases same; cases bare⟩
  have named : (Value.text "Africa/Nairobi").text? = some "Africa/Nairobi" := rfl
  obtain ⟨text, told, tells⟩ := (utcOffset_tells named known).1 placed
  exact ⟨known, placed, text, told, tells.whole⟩

/-- The clocks of Monrovia were behind by forty-four and a half minutes, and no session takes the text of that. -/
theorem utcOffset_seconds :
    let start : Moment := ⟨⟨1970, 1, 1⟩, ⟨0, 0, 0, 0, some 0⟩⟩
    offset? "Africa/Monrovia" (instant (some start) start) = some (-2670) ∧
      utcOffset (.text "Africa/Monrovia") (some start) start = .ok "-00:4430" ∧ minutes? "-00:4430".toList = none := by
  intro start
  have known : offset? "Africa/Monrovia" (instant (some start) start) = some (-2670) := by decide +kernel
  have placed : Placed (some start) start (-2670) := ⟨by decide, by decide, fun moment same bare => by cases same; cases bare⟩
  have written : sessionText (-2670) = "-00:4430" := by decide +kernel
  have named : (Value.text "Africa/Monrovia").text? = some "Africa/Monrovia" := rfl
  exact ⟨known, written ▸ utcOffset_placed named known placed, by decide⟩

end DataLayer.Zone
