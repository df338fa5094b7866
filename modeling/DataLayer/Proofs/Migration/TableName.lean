import DataLayer.Proofs.Migration.FileName
import DataLayer.Proofs.Text.Case

/-! The names of the tables that migrations create. A name says its table between `Create` and `Table` or `Tables`;
main statement: the words of such a name are read back from its table, and every other name has the same table. -/

namespace DataLayer.Migration

open DataLayer.Text

/-! Names that say a table. -/

/-- The endings of names that say a table. -/
def tableEndings : List String := ["Table", "Tables"]

/-- What may stand behind the ending: nothing, or a line end. -/
def closings : List String := ["", "\n"]

/-- The name that says a table in words. -/
def createName (words : List String) (ending : String) : String := "Create" ++ String.join words ++ ending

/-- A name says a table in basic letters and digits between `Create` and an ending. -/
def Says (name : String) (table : List Char) : Prop :=
  table ≠ [] ∧ (∀ c ∈ table, isPlain c = true) ∧ ∃ ending ∈ tableEndings, ∃ closing ∈ closings,
    name.toList = "Create".toList ++ table ++ ending.toList ++ closing.toList

theorem before?_eq_some {ending chars table : List Char} : before? ending chars = some table ↔ chars = table ++ ending := by
  unfold before?
  constructor
  · intro taken
    split at taken
    next suffix =>
      cases taken
      obtain ⟨front, rfl⟩ := List.isSuffixOf_iff_suffix.mp suffix
      simp
    next => cases taken
  · rintro rfl
    simp [List.isSuffixOf_iff_suffix]

/-- Only a line end is left out at the end. -/
theorem withoutLineEnd_eq (chars : List Char) : ∃ closing ∈ closings, chars = withoutLineEnd chars ++ closing.toList := by
  unfold withoutLineEnd
  by_cases ended : chars.getLast? = some '\n'
  · refine ⟨"\n", by simp [closings], ?_⟩
    rw [if_pos ended]
    exact (List.dropLast_append_getLast? _ ended).symm
  · exact ⟨"", by simp [closings], by simp [ended]⟩

theorem withoutLineEnd_append {chars : List Char} (unclosed : chars.getLast? ≠ some '\n') {closing : String}
    (member : closing ∈ closings) : withoutLineEnd (chars ++ closing.toList) = chars := by
  simp only [closings, List.mem_cons, List.not_mem_nil, or_false] at member
  rcases member with rfl | rfl
  · simp [withoutLineEnd, unclosed]
  · simp [withoutLineEnd]

/-- The ending is told by its last letter. -/
theorem before?_endings {chars table : List Char} :
    (before? "Table".toList chars).or (before? "Tables".toList chars) = some table ↔
      ∃ ending ∈ tableEndings, chars = table ++ ending.toList := by
  have apart (front : List Char) : before? "Table".toList (front ++ "Tables".toList) = none := by
    rw [Option.eq_none_iff_forall_ne_some]
    intro other taken
    have last := congrArg List.getLast? (before?_eq_some.mp taken)
    simp at last
  simp only [tableEndings, List.mem_cons, List.not_mem_nil, or_false, exists_eq_or_imp, exists_eq_left]
  constructor
  · intro taken
    rcases Option.or_eq_some_iff.mp taken with one | ⟨-, more⟩
    · exact .inl (before?_eq_some.mp one)
    · exact .inr (before?_eq_some.mp more)
  · rintro (rfl | rfl)
    · rw [before?_eq_some.mpr rfl, Option.some_or]
    · rw [apart, Option.none_or, before?_eq_some.mpr rfl]

/-- The stages in which a name is taken apart. -/
theorem createdTable?_eq (name : String) : createdTable? name =
    if "Create".toList.isPrefixOf (withoutLineEnd name.toList) then
      ((before? "Table".toList ((withoutLineEnd name.toList).drop 6)).or
        (before? "Tables".toList ((withoutLineEnd name.toList).drop 6))).bind
          fun table => if !table.isEmpty && table.all isPlain then some table else none
    else none := by
  unfold createdTable?
  dsimp only
  split <;> rfl

theorem drop_create (rest : List Char) : ("Create".toList ++ rest).drop 6 = rest :=
  List.drop_left' (by decide)

/-- What a name says of its table: all between `Create` and the ending. -/
theorem createdTable?_eq_some {name : String} {table : List Char} :
    createdTable? name = some table ↔ Says name table := by
  rw [createdTable?_eq]
  constructor
  · intro created
    obtain ⟨closing, closes, whole⟩ := withoutLineEnd_eq name.toList
    split at created
    next front =>
      obtain ⟨own, ended, plain⟩ := Option.bind_eq_some_iff.mp created
      split at plain
      next named =>
        cases plain
        simp only [Bool.and_eq_true, Bool.not_eq_true', List.isEmpty_eq_false_iff, List.all_eq_true] at named
        obtain ⟨ending, ends, rest⟩ := before?_endings.mp ended
        obtain ⟨behind, start⟩ := List.isPrefixOf_iff_prefix.mp front
        rw [← start, drop_create] at rest
        refine ⟨named.1, named.2, ending, ends, closing, closes, ?_⟩
        rw [whole, ← start, rest]
        simp only [List.append_assoc]
      next => cases plain
    next => cases created
  · rintro ⟨filled, plain, ending, ends, closing, closes, whole⟩
    have unclosed : ("Create".toList ++ table ++ ending.toList).getLast? ≠ some '\n' := by
      simp only [tableEndings, List.mem_cons, List.not_mem_nil, or_false] at ends
      rw [List.getLast?_append]
      rcases ends with rfl | rfl
      · simp
      · simp
    have front : "Create".toList.isPrefixOf ("Create".toList ++ (table ++ ending.toList)) = true :=
      List.isPrefixOf_iff_prefix.mpr (List.prefix_append _ _)
    have letters : table.all isPlain = true := List.all_eq_true.mpr plain
    rw [whole, withoutLineEnd_append unclosed closes, List.append_assoc, if_pos front, drop_create,
      before?_endings.mpr ⟨ending, ends, rfl⟩, Option.bind_some]
    simp [filled, letters]

/-! Words. -/

/-- Holds of words: a basic capital, then basic small letters and digits. -/
def IsWord : List Char → Prop
  | [] => False
  | capital :: rest => capital.isUpper = true ∧ ∀ c ∈ rest, (c.isLower || c.isDigit) = true

instance : DecidablePred IsWord
  | [] => .isFalse id
  | capital :: rest =>
    inferInstanceAs (Decidable (capital.isUpper = true ∧ ∀ c ∈ rest, (c.isLower || c.isDigit) = true))

/-- A word in small letters with its capital again. -/
def capitalised : List Char → List Char
  | [] => []
  | c :: rest => c.toUpper :: rest

theorem basic_of_isPlain {c : Char} (plain : isPlain c = true) : c.toNat < 128 :=
  basic_of_isNameChar (by rw [isNameChar, plain, Bool.true_or])

theorem plain_of_isUpper {c : Char} (upper : c.isUpper = true) : isPlain c = true := by
  have letter : (c.isUpper || c.isLower) = true := by rw [upper, Bool.true_or]
  exact Bool.or_eq_true_iff.mpr (.inl letter)

theorem plain_of_small {c : Char} (small : (c.isLower || c.isDigit) = true) : isPlain c = true := by
  rcases Bool.or_eq_true_iff.mp small with lower | digit
  · have letter : (c.isUpper || c.isLower) = true := by rw [lower, Bool.or_true]
    exact Bool.or_eq_true_iff.mpr (.inl letter)
  · exact Bool.or_eq_true_iff.mpr (.inr digit)

theorem toList_toLower (word : String) : word.toLower.toList = word.toList.map Char.toLower := String.toList_map

theorem toUpper_toLower {c : Char} (upper : c.isUpper = true) : c.toLower.toUpper = c :=
  of_basic (P := fun c => c.isUpper = true → c.toLower.toUpper = c) (by decide +kernel)
    (basic_of_isPlain (plain_of_isUpper upper)) upper

theorem toLower_ne_underscore {c : Char} (plain : isPlain c = true) : c.toLower ≠ '_' :=
  of_basic (P := fun c => isPlain c = true → c.toLower ≠ '_') (by decide +kernel) (basic_of_isPlain plain) plain

/-- Small letters and digits are no capitals and stay as they are. -/
theorem toLower_small {c : Char} (small : (c.isLower || c.isDigit) = true) : c.isUpper = false ∧ c.toLower = c :=
  of_basic (P := fun c => (c.isLower || c.isDigit) = true → c.isUpper = false ∧ c.toLower = c) (by decide +kernel)
    (basic_of_isPlain (plain_of_small small)) small

namespace IsWord

variable {word : List Char}

theorem plain (isWord : IsWord word) : ∀ c ∈ word, isPlain c = true := by
  cases word with
  | nil => exact isWord.elim
  | cons capital rest =>
    intro c member
    rcases List.mem_cons.mp member with rfl | later
    · exact plain_of_isUpper isWord.1
    · exact plain_of_small (isWord.2 c later)

theorem underscore_not_mem (isWord : IsWord word) : '_' ∉ word.map Char.toLower := by
  intro member
  obtain ⟨c, inside, same⟩ := List.mem_map.mp member
  exact toLower_ne_underscore (isWord.plain c inside) same

/-- A word is known from its small letters. -/
theorem capitalised_map (isWord : IsWord word) : capitalised (word.map Char.toLower) = word := by
  cases word with
  | nil => exact isWord.elim
  | cons capital rest =>
    have same : rest.map Char.toLower = rest := by
      conv_rhs => rw [← List.map_id rest]
      exact List.map_congr_left fun c member => (toLower_small (isWord.2 c member)).2
    rw [List.map_cons, capitalised, toUpper_toLower isWord.1, same]

end IsWord

theorem joinedWords_go_append {word : List Char} (small : ∀ c ∈ word, (c.isLower || c.isDigit) = true) (rest : List Char) :
    joinedWords.go (word ++ rest) = word.map Char.toLower ++ joinedWords.go rest := by
  induction word with
  | nil => rfl
  | cons c more ih =>
    obtain ⟨first, later⟩ := List.forall_mem_cons.mp small
    rw [List.cons_append, joinedWords.go, (toLower_small first).1, if_neg Bool.false_ne_true, ih later,
      List.map_cons, List.cons_append]

/-- An underscore stands before each word but the first. -/
theorem joinedWords_words {words : List (List Char)} (filled : words ≠ []) (worded : ∀ word ∈ words, IsWord word) :
    joinedWords words.flatten = ['_'].intercalate (words.map (List.map Char.toLower)) := by
  induction words with
  | nil => exact absurd rfl filled
  | cons word rest ih =>
    obtain ⟨isWord, later⟩ := List.forall_mem_cons.mp worded
    have first : joinedWords (word ++ rest.flatten) = word.map Char.toLower ++ joinedWords.go rest.flatten := by
      cases word with
      | nil => exact isWord.elim
      | cons capital letters =>
        rw [List.cons_append, joinedWords, joinedWords_go_append isWord.2, List.map_cons, List.cons_append]
    rw [List.flatten_cons, first]
    cases rest with
    | nil => simp [joinedWords.go]
    | cons next more =>
      have second : joinedWords.go (next :: more).flatten = '_' :: joinedWords (next :: more).flatten := by
        cases next with
        | nil => exact (later [] List.mem_cons_self).elim
        | cons capital letters =>
          have upper : capital.isUpper = true := (later _ List.mem_cons_self).1
          rw [List.flatten_cons, List.cons_append, joinedWords.go, if_pos upper, joinedWords]
      rw [second, ih (List.cons_ne_nil _ _) later]
      simp only [List.map_cons, List.intercalate_cons_cons, List.append_assoc, List.singleton_append]

/-! Tables. -/

theorem tableNameFor_eq {name : String} {table : List Char} (created : createdTable? name = some table) :
    tableNameFor name = String.ofList (joinedWords table) := by
  unfold tableNameFor
  rw [created]

/-- What a name in words says of its table. -/
theorem createdTable?_createName {words : List String} {ending : String} (filled : words ≠ [])
    (worded : ∀ word ∈ words, IsWord word.toList) (ends : ending ∈ tableEndings) :
    createdTable? (createName words ending) = some (words.map String.toList).flatten := by
  refine createdTable?_eq_some.mpr ⟨?_, ?_, ending, ends, "", by simp [closings], ?_⟩
  · obtain ⟨word, rest, rfl⟩ := List.exists_cons_of_ne_nil filled
    intro empty
    have isWord := worded word List.mem_cons_self
    rw [List.map_cons, List.flatten_cons] at empty
    rw [(List.append_eq_nil_iff.mp empty).1] at isWord
    exact isWord
  · intro c member
    obtain ⟨letters, listed, inside⟩ := List.mem_flatten.mp member
    obtain ⟨word, present, rfl⟩ := List.mem_map.mp listed
    exact (worded word present).plain c inside
  · simp [createName, String.toList_join, List.flatMap_def]

/-- The table of a name in words: the words in small letters, joined by underscores. -/
theorem tableNameFor_createName {words : List String} {ending : String} (filled : words ≠ [])
    (worded : ∀ word ∈ words, IsWord word.toList) (ends : ending ∈ tableEndings) :
    tableNameFor (createName words ending) = "_".intercalate (words.map String.toLower) := by
  have worded' : ∀ word ∈ words.map String.toList, IsWord word := by
    intro letters member
    obtain ⟨word, present, rfl⟩ := List.mem_map.mp member
    exact worded word present
  rw [tableNameFor_eq (createdTable?_createName filled worded ends), ← String.toList_inj, String.toList_ofList,
    joinedWords_words (by simpa using filled) worded', String.toList_intercalate, List.map_map, List.map_map]
  have letters : List.map Char.toLower ∘ String.toList = String.toList ∘ String.toLower :=
    funext fun word => (toList_toLower word).symm
  rw [letters]
  rfl

/-- The words of a name are read back from its table. -/
theorem splitOn_tableNameFor {words : List String} {ending : String} (filled : words ≠ [])
    (worded : ∀ word ∈ words, IsWord word.toList) (ends : ending ∈ tableEndings) :
    ((tableNameFor (createName words ending)).toList.splitOn '_').map (fun part => String.ofList (capitalised part)) =
      words := by
  have single : ∀ part ∈ (words.map String.toLower).map String.toList, '_' ∉ part := by
    intro part member
    obtain ⟨lower, listed, rfl⟩ := List.mem_map.mp member
    obtain ⟨word, present, rfl⟩ := List.mem_map.mp listed
    rw [toList_toLower]
    exact (worded word present).underscore_not_mem
  rw [tableNameFor_createName filled worded ends, String.toList_intercalate]
  change (List.splitOn '_' (['_'].intercalate _)).map _ = _
  rw [List.splitOn_intercalate '_' single (by simpa using filled), List.map_map, List.map_map]
  conv_rhs => rw [← List.map_id words]
  refine List.map_congr_left fun word member => ?_
  change String.ofList (capitalised word.toLower.toList) = word
  rw [toList_toLower, (worded word member).capitalised_map, String.ofList_toList]

/-- Names that say no table have one table in common. -/
theorem tableNameFor_other {name : String} (other : ¬ ∃ table, Says name table) : tableNameFor name = "table_name" := by
  unfold tableNameFor
  cases created : createdTable? name with
  | none => rfl
  | some table => exact absurd ⟨table, createdTable?_eq_some.mp created⟩ other

/-- A name in words between `Create` and `Table` or `Tables` says the table of these words in small letters, joined by
underscores. The words are read back from the table, so that different words never share one; every name that says no
table has the same one. -/
theorem tableNameFor_words {words other : List String} {ending ending' : String} (filled : words ≠ [])
    (worded : ∀ word ∈ words, IsWord word.toList) (ends : ending ∈ tableEndings) (filled' : other ≠ [])
    (worded' : ∀ word ∈ other, IsWord word.toList) (ends' : ending' ∈ tableEndings) :
    tableNameFor (createName words ending) = "_".intercalate (words.map String.toLower) ∧
    ((tableNameFor (createName words ending)).toList.splitOn '_').map (fun part => String.ofList (capitalised part)) =
      words ∧
    (tableNameFor (createName words ending) = tableNameFor (createName other ending') → words = other) ∧
    ∀ name, (¬ ∃ table, Says name table) → tableNameFor name = "table_name" := by
  have back := splitOn_tableNameFor filled worded ends
  have back' := splitOn_tableNameFor filled' worded' ends'
  refine ⟨tableNameFor_createName filled worded ends, back, ?_, fun name => tableNameFor_other⟩
  intro same
  rw [← back, ← back', same]

/-- A name whose words are endings themselves. -/
theorem tableNameFor_words_tables :
    let words := ["User2", "Table", "Tables"]
    words ≠ [] ∧ (∀ word ∈ words, IsWord word.toList) ∧ "Table" ∈ tableEndings ∧ "Tables" ∈ tableEndings ∧
    tableNameFor "CreateUser2TableTablesTable" = "user2_table_tables" ∧
    tableNameFor "CreateUser2TableTablesTables" = "user2_table_tables" ∧
    ("user2_table_tables".toList.splitOn '_').map (fun part => String.ofList (capitalised part)) = words ∧
    tableNameFor "CreateUser2TableTables" ≠ "user2_table_tables" ∧
    tableNameFor "AddUser2Table" = "table_name" := by
  intro words
  have filled : words ≠ [] := List.cons_ne_nil _ _
  have worded : ∀ word ∈ words, IsWord word.toList := by simp [words, IsWord]
  have fewer : ∀ word ∈ ["User2", "Table"], IsWord word.toList := by simp [IsWord]
  have single : "Table" ∈ tableEndings := by decide
  have plural : "Tables" ∈ tableEndings := by decide
  obtain ⟨table, back, apart, others⟩ := tableNameFor_words filled worded single (List.cons_ne_nil _ _) fewer plural
  obtain ⟨table', -⟩ := tableNameFor_words filled worded plural filled worded plural
  have joined : "_".intercalate (words.map String.toLower) = "user2_table_tables" := by
    rw [← String.toList_inj]
    simp [words, toList_toLower]
  rw [joined] at table table'
  rw [table] at back apart
  refine ⟨filled, worded, single, plural, table, table', back, ?_, others "AddUser2Table" ?_⟩
  · intro same
    exact absurd (apart same.symm) (by decide)
  · rintro ⟨said, -, -, ending, -, closing, -, whole⟩
    have first := congrArg List.head? whole
    simp at first

end DataLayer.Migration
