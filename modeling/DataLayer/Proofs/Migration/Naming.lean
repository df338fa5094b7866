import DataLayer.Proofs.Migration.Discovery
import DataLayer.Proofs.Migration.FileName
import DataLayer.Proofs.Source.Loading

/-! The form of the names that migrations are found by. A stamp is read one row of digits after the other, and a
word after it runs up to the ending. Main statement: a name in a folder is found exactly when it is a stamp, a word
and the ending `.py`, where the digits may be of any script and a line end may follow; among names of basic letters
without a line end these are the documented ones, and only a line end keeps a file from being loaded. -/

namespace DataLayer.Migration

open DataLayer.Source DataLayer.Text

variable {count : Nat} {chars rest : List Char} {name : String} {tree : Tree File} {folder path : Path}

/-- Holds of so many characters of a class. -/
def IsRow (digit : Char → Bool) (count : Nat) (chars : List Char) : Prop :=
  chars.length = count ∧ ∀ c ∈ chars, digit c = true

/-- Holds of basic letters, digits and underscores that do not start with a digit. -/
def IsBasicWord (chars : List Char) : Prop :=
  ∃ first rest, chars = first :: rest ∧ isNameStart first = true ∧ ∀ c ∈ rest, isNameChar c = true

/-- Holds of a stamp whose digits are of a class, followed by a word and an ending. -/
def HasForm (digit : Char → Bool) (ending : List Char) (chars : List Char) : Prop :=
  ∃ year month day clock word, IsRow digit 4 year ∧ IsRow digit 2 month ∧ IsRow digit 2 day ∧ IsRow digit 6 clock ∧
    IsBasicWord word ∧ chars = year ++ '_' :: (month ++ '_' :: (day ++ '_' :: (clock ++ '_' :: (word ++ ending))))

/-- Holds of the names that migration files are to have. -/
def IsDocumented (name : String) : Prop := HasForm Char.isDigit ".py".toList name.toList

/-- Holds of names that are followed by a line end. -/
def EndsLine (name : String) : Prop := name.toList.getLast? = some '\n'

instance (name : String) : Decidable (EndsLine name) := inferInstanceAs (Decidable (_ = _))

theorem dropDigits_eq_some : dropDigits count chars = some rest ↔ ∃ digits, IsRow isDigit count digits ∧ chars = digits ++ rest := by
  induction count generalizing chars with
  | zero =>
    constructor
    · intro dropped
      cases dropped
      exact ⟨[], ⟨rfl, nofun⟩, rfl⟩
    · rintro ⟨digits, ⟨none, -⟩, rfl⟩
      rw [List.length_eq_zero_iff.mp none]
      rfl
  | succ count ih =>
    cases chars with
    | nil =>
      constructor
      · intro dropped
        cases dropped
      · rintro ⟨digits, ⟨length, -⟩, split⟩
        rw [(List.append_eq_nil_iff.mp split.symm).1] at length
        cases length
    | cons c chars =>
      unfold dropDigits
      constructor
      · intro dropped
        split at dropped
        next digit =>
          obtain ⟨digits, ⟨rfl, every⟩, rfl⟩ := ih.mp dropped
          exact ⟨c :: digits, ⟨rfl, List.forall_mem_cons.mpr ⟨digit, every⟩⟩, rfl⟩
        next => cases dropped
      · rintro ⟨digits, ⟨length, every⟩, split⟩
        cases digits with
        | nil => cases length
        | cons first digits =>
          obtain ⟨rfl, rfl⟩ := List.cons.inj split
          obtain ⟨digit, every⟩ := List.forall_mem_cons.mp every
          rw [if_pos digit]
          exact ih.mpr ⟨digits, ⟨Nat.succ.inj length, every⟩, rfl⟩

theorem dropUnderscore_eq_some : dropUnderscore chars = some rest ↔ chars = '_' :: rest := by
  unfold dropUnderscore
  split
  next after => simp
  next other =>
    constructor
    · intro dropped
      cases dropped
    · intro same
      exact absurd same (other rest)

/-- A row of digits is taken together with the underscore after it. -/
theorem dropField_eq_some : (dropDigits count chars >>= dropUnderscore) = some rest ↔
    ∃ digits, IsRow isDigit count digits ∧ chars = digits ++ '_' :: rest := by
  constructor
  · intro dropped
    obtain ⟨between, taken, marked⟩ := Option.bind_eq_some_iff.mp dropped
    obtain ⟨digits, row, rfl⟩ := dropDigits_eq_some.mp taken
    exact ⟨digits, row, by rw [dropUnderscore_eq_some.mp marked]⟩
  · rintro ⟨digits, row, split⟩
    exact Option.bind_eq_some_iff.mpr ⟨_, dropDigits_eq_some.mpr ⟨digits, row, split⟩, rfl⟩

theorem dropStamp_eq_some : dropStamp chars = some rest ↔
    ∃ year month day clock, IsRow isDigit 4 year ∧ IsRow isDigit 2 month ∧ IsRow isDigit 2 day ∧ IsRow isDigit 6 clock ∧
      chars = year ++ '_' :: (month ++ '_' :: (day ++ '_' :: (clock ++ '_' :: rest))) := by
  unfold dropStamp
  constructor
  · intro dropped
    obtain ⟨_, first, dropped⟩ := Option.bind_eq_some_iff.mp dropped
    obtain ⟨_, second, dropped⟩ := Option.bind_eq_some_iff.mp dropped
    obtain ⟨_, third, fourth⟩ := Option.bind_eq_some_iff.mp dropped
    obtain ⟨year, years, rfl⟩ := dropField_eq_some.mp first
    obtain ⟨month, months, rfl⟩ := dropField_eq_some.mp second
    obtain ⟨day, days, rfl⟩ := dropField_eq_some.mp third
    obtain ⟨clock, clocks, rfl⟩ := dropField_eq_some.mp fourth
    exact ⟨year, month, day, clock, years, months, days, clocks, rfl⟩
  · rintro ⟨year, month, day, clock, years, months, days, clocks, rfl⟩
    apply Option.bind_eq_some_iff.mpr
    refine ⟨_, dropField_eq_some.mpr ⟨year, years, rfl⟩, ?_⟩
    apply Option.bind_eq_some_iff.mpr
    refine ⟨_, dropField_eq_some.mpr ⟨month, months, rfl⟩, ?_⟩
    apply Option.bind_eq_some_iff.mpr
    exact ⟨_, dropField_eq_some.mpr ⟨day, days, rfl⟩, dropField_eq_some.mpr ⟨clock, clocks, rfl⟩⟩

/-- A word runs up to an ending that starts with another character. -/
theorem dropWhile_word {word : List Char} (inside : ∀ c ∈ word, isNameChar c = true) {stop : Char}
    (foreign : isNameChar stop = false) (ending : List Char) :
    (word ++ stop :: ending).dropWhile isNameChar = stop :: ending := by
  rw [List.dropWhile_append_of_pos inside, List.dropWhile_cons, if_neg (by simp [foreign])]

theorem isNameWithEnding_cons (first : Char) (rest : List Char) :
    isNameWithEnding (first :: rest) = (isNameStart first &&
      (rest.dropWhile isNameChar == ".py".toList || rest.dropWhile isNameChar == ".py\n".toList)) := rfl

theorem isNameWithEnding_iff : isNameWithEnding chars = true ↔
    ∃ word, IsBasicWord word ∧ (chars = word ++ ".py".toList ∨ chars = word ++ ".py\n".toList) := by
  constructor
  · intro named
    cases chars with
    | nil => cases named
    | cons first chars =>
      rw [isNameWithEnding_cons, Bool.and_eq_true_iff, Bool.or_eq_true_iff, beq_iff_eq, beq_iff_eq] at named
      obtain ⟨start, ended⟩ := named
      have word : IsBasicWord (first :: chars.takeWhile isNameChar) :=
        ⟨first, _, rfl, start, List.all_eq_true.mp List.all_takeWhile⟩
      have split := List.takeWhile_append_dropWhile (p := isNameChar) (l := chars)
      refine ⟨_, word, ?_⟩
      rcases ended with plain | closed
      · rw [plain] at split
        exact .inl (congrArg (first :: ·) split.symm)
      · rw [closed] at split
        exact .inr (congrArg (first :: ·) split.symm)
  · rintro ⟨word, ⟨first, rest, rfl, start, inside⟩, rfl | rfl⟩
    · have dropped : (rest ++ ".py".toList).dropWhile isNameChar = ".py".toList := dropWhile_word inside (by decide) _
      simp only [List.cons_append, isNameWithEnding_cons, start, dropped, beq_self_eq_true, Bool.true_or, Bool.and_true]
    · have dropped : (rest ++ ".py\n".toList).dropWhile isNameChar = ".py\n".toList := dropWhile_word inside (by decide) _
      simp only [List.cons_append, isNameWithEnding_cons, start, dropped, beq_self_eq_true, Bool.or_true, Bool.and_true]

/-- A name is found exactly when it has the form of one, where every decimal digit counts and a line end is
overlooked. -/
theorem isFileName_iff : isFileName name = true ↔
    HasForm isDigit ".py".toList name.toList ∨ HasForm isDigit ".py\n".toList name.toList := by
  unfold isFileName
  constructor
  · intro named
    split at named
    next rest stamp =>
      obtain ⟨year, month, day, clock, years, months, days, clocks, split⟩ := dropStamp_eq_some.mp stamp
      obtain ⟨word, isWord, rfl | rfl⟩ := isNameWithEnding_iff.mp named
      · exact .inl ⟨year, month, day, clock, word, years, months, days, clocks, isWord, split⟩
      · exact .inr ⟨year, month, day, clock, word, years, months, days, clocks, isWord, split⟩
    next => cases named
  · rintro (⟨year, month, day, clock, word, years, months, days, clocks, isWord, split⟩ |
      ⟨year, month, day, clock, word, years, months, days, clocks, isWord, split⟩)
    · rw [dropStamp_eq_some.mpr ⟨year, month, day, clock, years, months, days, clocks, split⟩]
      exact isNameWithEnding_iff.mpr ⟨word, isWord, .inl rfl⟩
    · rw [dropStamp_eq_some.mpr ⟨year, month, day, clock, years, months, days, clocks, split⟩]
      exact isNameWithEnding_iff.mpr ⟨word, isWord, .inr rfl⟩

/-! Names of basic letters. -/

/-- The ranges of digits that reach into the basic letters. -/
theorem digitRanges_basic : (digitRanges.filter fun range => range.1 < 128) = [(0x30, 0x39)] := by decide

theorem isDigit_of_basic {c : Char} (basic : c.toNat < 128) (digit : Text.isDigit c = true) : c.isDigit = true := by
  obtain ⟨range, member, bounds⟩ := List.any_eq_true.mp digit
  simp only [Bool.and_eq_true, decide_eq_true_eq] at bounds
  have listed : range ∈ digitRanges.filter fun range => range.1 < 128 :=
    List.mem_filter.mpr ⟨member, decide_eq_true (by omega)⟩
  rw [digitRanges_basic, List.mem_singleton] at listed
  subst listed
  exact isDigit_iff.mpr bounds

theorem IsRow.imp {digit other : Char → Bool} (row : IsRow digit count chars)
    (implies : ∀ c ∈ chars, digit c = true → other c = true) : IsRow other count chars :=
  ⟨row.1, fun c member => implies c member (row.2 c member)⟩

theorem IsBasicWord.basic (word : IsBasicWord chars) : ∀ c ∈ chars, c.toNat < 128 := by
  obtain ⟨first, rest, rfl, start, inside⟩ := word
  intro c member
  rcases List.mem_cons.mp member with rfl | later
  · exact basic_of_isNameChar (isNameChar_iff.mpr (.inl start))
  · exact basic_of_isNameChar (inside c later)

theorem HasForm.isSuffix {digit : Char → Bool} {ending : List Char} (form : HasForm digit ending chars) : ending <:+ chars := by
  obtain ⟨year, month, day, clock, word, -, -, -, -, -, rfl⟩ := form
  exact ⟨year ++ '_' :: (month ++ '_' :: (day ++ '_' :: (clock ++ '_' :: word))), by simp⟩

/-- The last character of a name is that of its ending. -/
theorem HasForm.getLast? {digit : Char → Bool} {ending : List Char} (form : HasForm digit ending chars)
    (filled : ending ≠ []) : chars.getLast? = ending.getLast? := by
  obtain ⟨before, rfl⟩ := form.isSuffix
  exact List.getLast?_append_of_ne_nil before filled

/-- The documented names are those that are found, have basic letters only, and no line end after them. -/
theorem isDocumented_iff : IsDocumented name ↔ isFileName name = true ∧ isBasic name = true ∧ ¬ EndsLine name := by
  constructor
  · intro documented
    have last := documented.getLast? (by decide)
    obtain ⟨year, month, day, clock, word, years, months, days, clocks, isWord, spelt⟩ := documented
    have digit {count : Nat} {chars : List Char} (row : IsRow Char.isDigit count chars) : IsRow Text.isDigit count chars :=
      row.imp fun c _ => isDigit_of_isDigit
    have basic {count : Nat} {chars : List Char} (row : IsRow Char.isDigit count chars) : ∀ c ∈ chars, c.toNat < 128 := by
      intro c member
      have bounds := isDigit_iff.mp (row.2 c member)
      omega
    refine ⟨isFileName_iff.mpr (.inl ⟨year, month, day, clock, word, digit years, digit months, digit days, digit clocks,
      isWord, spelt⟩), ?_, ?_⟩
    · unfold isBasic
      rw [spelt, List.all_eq_true]
      simp only [List.mem_append, List.mem_cons, decide_eq_true_eq]
      rintro c (member | rfl | member | rfl | member | rfl | member | rfl | member | member)
      · exact basic years c member
      · decide
      · exact basic months c member
      · decide
      · exact basic days c member
      · decide
      · exact basic clocks c member
      · decide
      · exact isWord.basic c member
      · exact of_decide_eq_true (List.all_eq_true.mp (show isBasic ".py" = true by decide) c member)
    · unfold EndsLine
      rw [last]
      decide
  · rintro ⟨named, basic, unended⟩
    rcases isFileName_iff.mp named with plain | closed
    · obtain ⟨year, month, day, clock, word, years, months, days, clocks, isWord, spelt⟩ := plain
      have each : ∀ c ∈ name.toList, c.toNat < 128 := fun c member => of_decide_eq_true (List.all_eq_true.mp basic c member)
      have digit {count : Nat} {chars : List Char} (row : IsRow Text.isDigit count chars) (part : chars ⊆ name.toList) :
          IsRow Char.isDigit count chars :=
        row.imp fun c member => isDigit_of_basic (each c (part member))
      refine ⟨year, month, day, clock, word, digit years ?_, digit months ?_, digit days ?_, digit clocks ?_, isWord, spelt⟩
      all_goals
        rw [spelt]
        intro c member
        simp [member]
    · exact absurd (closed.getLast? (by decide)) unended

/-! What is found in a folder. -/

/-- Among the names that are found, the plain ending is missing where there is a line end. -/
theorem isSuffixOf_of_isFileName (named : isFileName name = true) :
    ".py".toList.isSuffixOf name.toList = !decide (EndsLine name) := by
  rw [Bool.eq_iff_iff, List.isSuffixOf_iff_suffix, Bool.not_eq_true', decide_eq_false_iff_not]
  rcases isFileName_iff.mp named with plain | closed
  · refine iff_of_true plain.isSuffix ?_
    unfold EndsLine
    rw [plain.getLast? (by decide)]
    decide
  · have ended : EndsLine name := closed.getLast? (by decide)
    refine iff_of_false (fun suffix => ?_) (not_not.mpr ended)
    obtain ⟨before, spelt⟩ := suffix
    unfold EndsLine at ended
    rw [← spelt, List.getLast?_append_of_ne_nil before (by decide)] at ended
    revert ended
    decide

/-- The names that are found in a folder. They have the form of a stamp, whose digits can be of any script, a word
and the ending, which a line end can follow; among basic letters without a line end these are the documented names.
A file that is found is loaded as what it binds unless its name has a line end, and then it is never loaded. -/
theorem discover_iff {names : List String} (listed : tree.listing folder = .ok names) :
    ∃ files, discover tree folder = .ok files ∧ ∀ name,
      (name ∈ files ↔ name ∈ names ∧
        (HasForm isDigit ".py".toList name.toList ∨ HasForm isDigit ".py\n".toList name.toList)) ∧
      (isBasic name = true → ¬ EndsLine name → (name ∈ files ↔ name ∈ names ∧ IsDocumented name)) ∧
      (name ∈ files → ∀ file, tree.find? (folder.child name) = some (.file file) →
        if EndsLine name then
          load tree (folder.child name) = .error (.report (.aboutMigration ("Cannot import " ++ name) name))
        else ∀ bindings, load tree (folder.child name) = .ok bindings ↔ file.bindings (folder.child name) = .ok bindings) := by
  have discovered : discover tree folder =
      .ok ((names.filter isFileName).mergeSort fun first second => decide (first ≤ second)) := by
    unfold discover
    rw [listed]
    rfl
  refine ⟨_, discovered, fun name => ?_⟩
  have member : name ∈ (names.filter isFileName).mergeSort (fun first second => decide (first ≤ second)) ↔
      name ∈ names ∧ isFileName name = true := by
    rw [(List.mergeSort_perm _ _).mem_iff, List.mem_filter]
  refine ⟨?_, fun basic unended => ?_, fun present file found => ?_⟩
  · rw [member, isFileName_iff]
  · rw [member, isDocumented_iff]
    simp only [basic, unended, not_false_eq_true, and_true]
  · have named := (member.mp present).2
    have own : (folder.child name).name = name := Path.name_child (isName_of_isFileName named) folder
    have ending : ".py".toList.isSuffixOf (folder.child name).name.toList = !decide (EndsLine name) := by
      rw [own]
      exact isSuffixOf_of_isFileName named
    split
    next ended =>
      rw [decide_eq_true ended] at ending
      have refused : load tree (folder.child name) = _ := load_other ending
      rwa [own] at refused
    next unended =>
      rw [decide_eq_false unended] at ending
      exact load_plain ending found

/-- A folder with a migration, a note, and two files whose names are no documented ones: a stamp in the digits of
another script, and a line end after the ending. -/
theorem discover_iff_mixed :
    let plain := "2025_01_01_000000_first.py"
    let foreign := "٢٠٢٥_01_01_000000_second.py"
    let closed := "2025_01_01_000000_third.py\n"
    let file : Node File := .file (singleClass [] [])
    let tree : Tree File :=
      { nodes := [(["m"], .folder), (["m", closed], file), (["m", "notes.py"], file), (["m", foreign], file),
                  (["m", plain], file)] }
    let folder : Path := { parts := ["m"] }
    ∃ files, discover tree folder = .ok files ∧ plain ∈ files ∧ foreign ∈ files ∧ closed ∈ files ∧ "notes.py" ∉ files ∧
      load tree (folder.child closed) = .error (.report (.aboutMigration ("Cannot import " ++ closed) closed)) := by
  intro plain foreign closed file tree folder
  have listed : tree.listing folder = .ok [closed, "notes.py", foreign, plain] := rfl
  obtain ⟨files, discovered, each⟩ := discover_iff listed
  have named : ["2025_01_01_000000_third.py\n", "notes.py", "٢٠٢٥_01_01_000000_second.py",
      "2025_01_01_000000_first.py"].map isFileName = [true, false, true, true] := by decide +kernel
  simp only [List.map_cons, List.map_nil, List.cons.injEq, and_true] at named
  obtain ⟨third, note, second, first⟩ := named
  have inside : closed ∈ files := (each closed).1.mpr ⟨List.mem_cons_self, isFileName_iff.mp third⟩
  have place : folder.child closed = { parts := ["m", closed] } :=
    show Path.child { parts := ["m"] } "2025_01_01_000000_third.py\n" = _ by decide +kernel
  have refused := (each closed).2.2 inside (singleClass [] []) (by rw [place]; rfl)
  rw [if_pos (by decide)] at refused
  refine ⟨files, discovered, (each plain).1.mpr ⟨by simp, isFileName_iff.mp first⟩,
    (each foreign).1.mpr ⟨by simp, isFileName_iff.mp second⟩, inside, fun present => ?_, refused⟩
  rw [isFileName_iff.mpr ((each _).1.mp present).2] at note
  cases note

/-- A line end after the ending is overlooked, so that a name is found that is no documented one, and its file is not
loaded. -/
theorem discover_undocumented :
    let name := "2025_01_01_000000_M.py\n"
    let folder : Path := { parts := ["m"] }
    let tree : Tree File := { nodes := [(["m"], .folder), (["m", name], .file (singleClass [] []))] }
    discover tree folder = .ok [name] ∧ ¬ IsDocumented name ∧
      load tree (folder.child name) = .error (.report (.aboutMigration ("Cannot import " ++ name) name)) := by
  intro name folder tree
  have discovered : discover tree folder = .ok [name] := by
    have listed : tree.listing folder = .ok [name] := rfl
    have named : [name].filter isFileName = [name] :=
      show ["2025_01_01_000000_M.py\n"].filter isFileName = _ by decide +kernel
    unfold discover
    rw [listed]
    change Except.ok (([name].filter isFileName).mergeSort _) = _
    rw [named, List.mergeSort_singleton]
  refine ⟨discovered, fun documented => (isDocumented_iff.mp documented).2.2 (by decide), ?_⟩
  have own : (folder.child name).name = name :=
    show (Path.child { parts := ["m"] } "2025_01_01_000000_M.py\n").name = _ by decide +kernel
  have refused : load tree (folder.child name) = _ := load_other (by rw [own]; decide)
  rwa [own] at refused

end DataLayer.Migration
