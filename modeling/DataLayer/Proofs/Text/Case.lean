import DataLayer.Text.Blank
import DataLayer.Text.Case

/-! Characters without case, and basic letters in either case. Main statements: a character that no capital is or holds
stands in a text in upper case only where it stood before; and a text keeps its basic capitals, by which its upper case
goes, when basic letters in it change their case. White space has no case, so that only blank texts are blank in upper
case. -/

namespace DataLayer.Text

/-- Holds of characters that are no capital of another: they stand in no sequence, and no run of letters is shifted onto
them. -/
structure IsCaseless (c : Char) : Prop where
  sequences : ∀ entry ∈ upperSequences, c ∉ entry.2.map Char.ofNat
  runs : ∀ run ∈ upperRuns, c.toNat - run.2.2.2 < run.1 ∨ (run.2.1 : Int) < c.toNat - run.2.2.2
  some : c.toNat ≠ 0

instance (c : Char) : Decidable (IsCaseless c) :=
  decidable_of_iff
    ((∀ entry ∈ upperSequences, c ∉ entry.2.map Char.ofNat) ∧
      (∀ run ∈ upperRuns, c.toNat - run.2.2.2 < run.1 ∨ (run.2.1 : Int) < c.toNat - run.2.2.2) ∧ c.toNat ≠ 0)
    ⟨fun holds => ⟨holds.1, holds.2.1, holds.2.2⟩, fun caseless => ⟨caseless.sequences, caseless.runs, caseless.some⟩⟩

theorem toNat_of_ofNat {c : Char} {n : Nat} (some : c.toNat ≠ 0) (same : Char.ofNat n = c) : n = c.toNat := by
  have code := congrArg Char.toNat same
  by_cases valid : n.isValidChar
  · rwa [Char.ofNat, dif_pos valid] at code
  · rw [Char.ofNat, dif_neg valid] at code
    exact absurd code.symm some

variable {c d : Char}

theorem eq_of_shifted (caseless : IsCaseless c) (same : shifted upperRuns d = c) : d = c := by
  unfold shifted at same
  cases moved : shiftOf? upperRuns d.toNat with
  | none => simpa only [moved] using same
  | some shift =>
    rw [moved] at same
    obtain ⟨run, found, rfl⟩ := Option.map_eq_some_iff.mp moved
    have inside := List.find?_some found
    simp only [Bool.and_eq_true, decide_eq_true_eq] at inside
    have code := toNat_of_ofNat caseless.some same
    have outside := caseless.runs run (List.mem_of_find?_eq_some found)
    have some := caseless.some
    omega

theorem eq_of_mem_upperChar (caseless : IsCaseless c) (mem : c ∈ upperChar d) : d = c := by
  unfold upperChar at mem
  split at mem
  next entry found => exact absurd mem (caseless.sequences entry (List.mem_of_find?_eq_some found))
  next => exact eq_of_shifted caseless (List.mem_singleton.mp mem).symm

/-- A text in upper case has such a character only if it had it before. -/
theorem mem_of_mem_upper (caseless : IsCaseless c) {text : String} (mem : c ∈ (upper text).toList) :
    c ∈ text.toList := by
  rw [upper, String.toList_ofList, List.mem_flatMap] at mem
  obtain ⟨d, member, mem⟩ := mem
  exact eq_of_mem_upperChar caseless mem ▸ member

/-- White space has no case: no capital is or holds any, and no run of letters is shifted onto a range of it. -/
theorem caseless_of_isBlank (blank : isBlank c = true) : IsCaseless c := by
  have sequences : ∀ entry ∈ upperSequences, ∀ code ∈ entry.2, isBlank (Char.ofNat code) = false := by decide +kernel
  have apart : ∀ run ∈ upperRuns, ∀ range ∈ blankRanges,
      (range.2 : Int) - run.2.2.2 < run.1 ∨ (run.2.1 : Int) < range.1 - run.2.2.2 := by decide +kernel
  have positive : ∀ range ∈ blankRanges, 0 < range.1 := by decide
  obtain ⟨range, known, inside⟩ := List.any_eq_true.mp blank
  simp only [Bool.and_eq_true, decide_eq_true_eq] at inside
  refine ⟨fun entry listed held => ?_, fun run listed => ?_, ?_⟩
  · obtain ⟨code, member, rfl⟩ := List.mem_map.mp held
    rw [sequences entry listed code member] at blank
    cases blank
  · have between := apart run listed range known
    omega
  · have above := positive range known
    omega

/-- What holds of the first 128 characters, looked at one by one, holds of a character among them. -/
theorem of_basic {P : Char → Prop} (each : ∀ code < 128, P (Char.ofNat code)) (basic : c.toNat < 128) : P c := by
  have own := each c.toNat basic
  rwa [Char.ofNat_toNat] at own

/-- The first 128 characters have their basic capitals. -/
theorem upperChar_basic (basic : c.toNat < 128) : upperChar c = [c.toUpper] :=
  of_basic (P := fun c => upperChar c = [c.toUpper]) (by decide +kernel) basic

theorem upper_basic {text : String} (basic : ∀ c ∈ text.toList, c.toNat < 128) :
    (upper text).toList = text.toList.map Char.toUpper := by
  rw [upper, String.toList_ofList, List.map_eq_flatMap, List.flatMap_def, List.flatMap_def]
  exact congrArg List.flatten (List.map_congr_left fun c member => upperChar_basic (basic c member))

/-- No letter but R itself becomes an R in upper case: no capital of several letters holds one, and no other run is
shifted onto it. -/
theorem eq_of_mem_upperChar_r (mem : 'R' ∈ upperChar d) : d = 'R' ∨ d = 'r' := by
  have sequences : ∀ entry ∈ upperSequences, 'R' ∉ entry.2.map Char.ofNat := by decide +kernel
  have runs : ∀ run ∈ upperRuns, (run.1 : Int) ≤ 82 - run.2.2.2 → 82 - run.2.2.2 ≤ run.2.1 →
      82 - run.2.2.2 = 114 := by decide +kernel
  unfold upperChar at mem
  split at mem
  next entry found => exact absurd mem (sequences entry (List.mem_of_find?_eq_some found))
  next =>
    have same : shifted upperRuns d = 'R' := (List.mem_singleton.mp mem).symm
    unfold shifted at same
    cases moved : shiftOf? upperRuns d.toNat with
    | none => exact .inl (by simpa only [moved] using same)
    | some shift =>
      rw [moved] at same
      obtain ⟨run, found, rfl⟩ := Option.map_eq_some_iff.mp moved
      have inside := List.find?_some found
      simp only [Bool.and_eq_true, decide_eq_true_eq] at inside
      have code : Int.toNat (d.toNat + run.2.2.2) = 82 := toNat_of_ofNat (by decide) same
      have lower := runs run (List.mem_of_find?_eq_some found) (by omega) (by omega)
      have little : d.toNat = 114 := by omega
      exact .inr (Char.toNat_inj.mp little)

theorem upperChar_ne_nil (c : Char) : upperChar c ≠ [] := by
  have each : ∀ entry ∈ upperSequences, entry.2 ≠ [] := by decide +kernel
  unfold upperChar
  split
  next entry found => simpa using each entry (List.mem_of_find?_eq_some found)
  next => exact List.cons_ne_nil _ _

/-- Only blank texts are blank in upper case. -/
theorem isBlankText_upper {text : String} (filled : isBlankText text = false) : isBlankText (upper text) = false := by
  obtain ⟨c, member, solid⟩ := List.all_eq_false.mp filled
  obtain ⟨capital, mem⟩ := List.exists_mem_of_ne_nil _ (upperChar_ne_nil c)
  refine List.all_eq_false.mpr ⟨capital, ?_, fun blank => ?_⟩
  · rw [upper, String.toList_ofList]
    exact List.mem_flatMap.mpr ⟨c, member, mem⟩
  · rw [eq_of_mem_upperChar (caseless_of_isBlank blank) mem] at solid
    exact solid blank

/-! Basic letters in either case. -/

/-- Beyond the first 128 characters each is its own basic capital. -/
theorem toUpper_foreign (foreign : 128 ≤ c.toNat) : c.toUpper = c := by
  unfold Char.toUpper
  refine dif_neg fun small => ?_
  have bound : c.toNat ≤ 122 := small.2
  omega

/-- What cannot tell the first 128 characters from their capitals cannot tell any character from its basic capital. -/
theorem toUpper_alike {β : Type} {f : Char → β}
    (basic : ∀ code < 128, f (Char.ofNat code).toUpper = f (Char.ofNat code)) (c : Char) : f c.toUpper = f c := by
  by_cases low : c.toNat < 128
  · exact of_basic (P := fun c => f c.toUpper = f c) basic low
  · rw [toUpper_foreign (Nat.le_of_not_lt low)]

theorem upperChar_toUpper (c : Char) : upperChar c.toUpper = upperChar c := by
  by_cases basic : c.toNat < 128
  · obtain ⟨low, same⟩ : c.toUpper.toNat < 128 ∧ c.toUpper.toUpper = c.toUpper :=
      of_basic (P := fun c => c.toUpper.toNat < 128 ∧ c.toUpper.toUpper = c.toUpper) (by decide +kernel) basic
    rw [upperChar_basic low, same, upperChar_basic basic]
  · rw [toUpper_foreign (Nat.le_of_not_lt basic)]

theorem isBlank_toUpper (c : Char) : isBlank c.toUpper = isBlank c := toUpper_alike (by decide +kernel) c

theorem upper_map_toUpper (chars : List Char) :
    upper (String.ofList (chars.map Char.toUpper)) = upper (String.ofList chars) := by
  unfold upper
  rw [String.toList_ofList, String.toList_ofList, List.flatMap_map]
  simp only [upperChar_toUpper]

/-- A basic letter in its other case, and every other character as it is. -/
def flipCase (c : Char) : Char := if c.isUpper then c.toLower else c.toUpper

/-- A text in which the basic letters at some places are in their other case. -/
def flipped (chosen : Nat → Bool) (text : String) : String :=
  String.ofList (text.toList.mapIdx fun place c => if chosen place then flipCase c else c)

theorem toUpper_flipCase (c : Char) : (flipCase c).toUpper = c.toUpper := by
  unfold flipCase
  split
  next capital =>
    have bound : c.toNat ≤ 90 := (of_decide_eq_true capital : 'A'.val ≤ c.val ∧ c.val ≤ 'Z'.val).2
    exact of_basic (P := fun c => c.toLower.toUpper = c.toUpper) (by decide +kernel) (by omega)
  next => exact toUpper_alike (by decide +kernel) c

/-- Flipping keeps the basic capitals of a text. -/
theorem toUpper_flipped (chosen : Nat → Bool) (text : String) : (flipped chosen text).toUpper = text.toUpper := by
  rw [← String.toList_inj]
  unfold flipped String.toUpper
  rw [String.toList_map, String.toList_map, String.toList_ofList]
  refine List.ext_getElem (by simp) fun place _ _ => ?_
  rw [List.getElem_map, List.getElem_map, List.getElem_mapIdx]
  split
  · exact toUpper_flipCase _
  · rfl

end DataLayer.Text
