import DataLayer.Engine.Scripted
import DataLayer.Proofs.Database.Protocol
import DataLayer.Proofs.Text.Case

/-! The leading word of a statement, which decides on what `execute` answers. What may stand before the word is less
than all white space, and the word goes on to the next white space. Main statements: a statement that has nothing but
uncommon white space is refused after it was committed, and no other is; a keyword that yields rows is known only
where it ends the statement or white space follows it; and nothing counts but the letters of the word, in whatever
case they are. -/

namespace DataLayer

open DataLayer.Text

namespace Text

theorem firstWord_eq_nil_iff {chars : List Char} : firstWord chars = [] ↔ ∀ c ∈ chars, isBlank c = true := by
  induction chars with
  | nil => simp [firstWord]
  | cons c rest ih =>
    unfold firstWord at ih ⊢
    rw [List.forall_mem_cons]
    cases blank : isBlank c with
    | true => simpa only [List.dropWhile_cons_of_pos blank, true_and] using ih
    | false => simp [blank]

/-- A word of its own, up to the white space behind it. -/
theorem firstWord_append {word rest : List Char} (some : word ≠ []) (solid : ∀ c ∈ word, isBlank c = false)
    (ends : ∀ c ∈ rest.head?, isBlank c = true) : firstWord (word ++ rest) = word := by
  have begins : (word ++ rest).dropWhile isBlank = word ++ rest := by
    obtain ⟨c, word, rfl⟩ := List.exists_cons_of_ne_nil some
    exact List.dropWhile_cons_of_neg (by simp [solid c List.mem_cons_self])
  have stops : rest.takeWhile (fun c => !isBlank c) = [] := by
    cases rest with
    | nil => rfl
    | cons c rest => simp [ends c rfl]
  unfold firstWord
  rw [begins, List.takeWhile_append_of_pos fun c member => by rw [solid c member]; rfl, stops, List.append_nil]

theorem firstWord_map {f : Char → Char} (keeps : ∀ c, isBlank (f c) = isBlank c) (chars : List Char) :
    firstWord (chars.map f) = (firstWord chars).map f := by
  unfold firstWord
  rw [List.dropWhile_map, List.takeWhile_map]
  simp only [Function.comp_def, keeps]

end Text

namespace Database

variable {σ : Type} {db : Database σ} {sql : String} {params : List Value} {s t : Session σ} {statement : Statement}

/-- Holds of statements that go on after their lead with white space that is none of it, and with nothing else. -/
def Wordless (sql : String) : Prop :=
  ∃ lead c rest, sql.toList = lead ++ c :: rest ∧ (∀ d ∈ lead, isLead d = true) ∧ isLead c = false ∧
    ∀ d ∈ c :: rest, isBlank d = true

/-- A lead is skipped. -/
theorem dropWhile_lead {lead : List Char} (leads : ∀ c ∈ lead, isLead c = true) (chars : List Char) :
    (lead ++ chars).dropWhile isLead = chars.dropWhile isLead :=
  List.dropWhile_append_of_pos leads

theorem returnsRows_wordless (wordless : Wordless sql) :
    returnsRows sql = .error (.outOfRange "list index out of range") := by
  obtain ⟨lead, c, rest, shape, leads, body, blank⟩ := wordless
  have left : sql.toList.dropWhile isLead = c :: rest := by
    rw [shape, dropWhile_lead leads, List.dropWhile_cons_of_neg (by simp [body])]
  unfold returnsRows
  rw [left]
  dsimp only
  rw [firstWord_eq_nil_iff.mpr blank]

/-- Every other statement has a leading word, or nothing behind its lead. -/
theorem returnsRows_worded (worded : ¬ Wordless sql) : ∃ yields, returnsRows sql = .ok yields := by
  unfold returnsRows
  split
  next => exact ⟨false, rfl⟩
  next left _ =>
    split
    next wordless =>
      refine absurd ?_ worded
      cases shape : sql.toList.dropWhile isLead with
      | nil => contradiction
      | cons c rest =>
        rw [shape, firstWord_eq_nil_iff] at wordless
        refine ⟨sql.toList.takeWhile isLead, c, rest, ?_, List.all_eq_true.mp List.all_takeWhile, ?_, wordless⟩
        · rw [← shape, List.takeWhile_append_dropWhile]
        · have stopped := List.head?_dropWhile_not isLead sql.toList
          simpa [shape] using stopped
    next => exact ⟨_, rfl⟩

/-- The word behind the lead decides. -/
theorem returnsRows_leading {lead word rest : List Char} (leads : ∀ c ∈ lead, isLead c = true) (some : word ≠ [])
    (body : ∀ c ∈ word.head?, isLead c = false) (solid : ∀ c ∈ word, isBlank c = false)
    (ends : ∀ c ∈ rest.head?, isBlank c = true) :
    returnsRows (String.ofList (lead ++ (word ++ rest))) =
      .ok (rowKeywords.contains (upper (String.ofList word))) := by
  obtain ⟨c, word, rfl⟩ := List.exists_cons_of_ne_nil some
  have left : (lead ++ (c :: word ++ rest)).dropWhile isLead = c :: word ++ rest := by
    rw [dropWhile_lead leads]
    exact List.dropWhile_cons_of_neg (by simp [body c rfl])
  have first := firstWord_append some solid ends
  unfold returnsRows
  rw [String.toList_ofList, left]
  dsimp only [List.cons_append] at first ⊢
  rw [first]

/-- A statement that went well is looked at afterwards. -/
theorem on_execute (ran : Action.on (run db (.text sql) params) s = (.ok statement, t)) :
    Action.on (execute db (.text sql) params) s =
      (((returnsRows sql).map fun yields => if yields then some statement.rows else none).mapError Fault.misuse, t) := by
  unfold execute
  rw [Action.on_bind, ran]
  change Action.on (Action.check (returnsRows sql) >>= _) t = _
  rw [Action.on_bind, Action.on_check]
  cases returnsRows sql <;> rfl

/-- A statement that went well answers with its rows or with success, unless it has no word: then it is refused,
although it was committed. -/
theorem execute_answers (ran : Action.on (run db (.text sql) params) s = (.ok statement, t)) :
    (¬ Wordless sql → ∃ answer, Action.on (execute db (.text sql) params) s = (.ok answer, t) ∧
      (answer = some statement.rows ∨ answer = none)) ∧
    (Wordless sql → Action.on (execute db (.text sql) params) s =
      (.error (.misuse (.outOfRange "list index out of range")), t)) := by
  rw [on_execute ran]
  constructor
  · intro worded
    obtain ⟨yields, known⟩ := returnsRows_worded worded
    rw [known]
    refine ⟨_, rfl, ?_⟩
    cases yields with
    | true => exact .inl rfl
    | false => exact .inr rfl
  · intro wordless
    rw [returnsRows_wordless wordless]
    rfl

/-- A vertical tab stands before the word of the first statement, and alone in the second. -/
theorem execute_answers_tab :
    let response : Scripted.Response := { columns := ["a"], rows := [[.int 1]] }
    let db : Database Scripted.Engine :=
      { kind := .sqlite, config := {}, now := ⟨⟨2025, 1, 1⟩, ⟨0, 0, 0, 0, none⟩⟩, driver := Scripted.driver }
    let s : Session Scripted.Engine := { engine := { script := [response] } }
    let worded := "\x0bSELECT a"
    let wordless := "(\x0b "
    (∃ statement t, Action.on (run db (.text worded) []) s = (.ok statement, t) ∧ ¬ Wordless worded ∧
      ∃ answer, Action.on (execute db (.text worded) []) s = (.ok answer, t) ∧
        (answer = some statement.rows ∨ answer = none)) ∧
    ∃ statement t, Action.on (run db (.text wordless) []) s = (.ok statement, t) ∧ Wordless wordless ∧
      Action.on (execute db (.text wordless) []) s =
        (.error (.misuse (.outOfRange "list index out of range")), t) := by
  intro response db s worded wordless
  have first : ∃ statement t, Action.on (run db (.text worded) []) s = (.ok statement, t) := ⟨_, _, rfl⟩
  have second : ∃ statement t, Action.on (run db (.text wordless) []) s = (.ok statement, t) := ⟨_, _, rfl⟩
  obtain ⟨statement, t, ran⟩ := first
  obtain ⟨other, u, also⟩ := second
  have blank : Wordless wordless := ⟨['('], '\x0b', [' '], by decide, List.all_eq_true.mp (by decide), by decide,
    List.all_eq_true.mp (by decide)⟩
  have word : ¬ Wordless worded := by
    rintro ⟨lead, c, rest, shape, leads, -, blank⟩
    have member : 'S' ∈ lead ++ c :: rest := shape ▸ by decide
    rcases List.mem_append.mp member with early | late
    · exact absurd (leads _ early) (by decide)
    · exact absurd (blank _ late) (by decide)
  exact ⟨⟨statement, t, ran, word, (execute_answers ran).1 word⟩, other, u, also, blank, (execute_answers also).2 blank⟩

/-- A lone vertical tab is executed and committed, and then reported as a failure. -/
theorem committed_fails :
    let db : Database Scripted.Engine :=
      { kind := .sqlite, config := {}, now := ⟨⟨2025, 1, 1⟩, ⟨0, 0, 0, 0, none⟩⟩, driver := Scripted.driver }
    let s : Session Scripted.Engine := { engine := {} }
    (∃ statement, (Action.on (run db (.text "\x0b") []) s).1 = .ok statement) ∧
      (Action.on (execute db (.text "\x0b") []) s).1 = .error (.misuse (.outOfRange "list index out of range")) := by
  intro db s
  exact ⟨⟨_, rfl⟩, rfl⟩

/-- Holds of characters that a word of a statement goes on with: letters, digits, the underscore and the dollar
sign. -/
def continuesWord (c : Char) : Bool := c.isAlphanum || c == '_' || c == '$'

/-- Holds of keywords that yield rows, in any mix of cases. -/
def IsRowKeyword (word : String) : Prop := ∃ keyword ∈ rowKeywords, word.toList.map Char.toUpper = keyword.toList

theorem rowKeywords_capital : ∀ keyword ∈ rowKeywords, keyword ≠ "" ∧ ∀ c ∈ keyword.toList, c.isUpper = true := by
  have each : ∀ keyword ∈ rowKeywords, keyword ≠ "" ∧ keyword.toList.all Char.isUpper = true := by decide
  intro keyword among
  exact ⟨(each keyword among).1, List.all_eq_true.mp (each keyword among).2⟩

/-- Only the keyword that another one begins with goes on, and it does with an R. -/
theorem rowKeywords_longer : ∀ keyword ∈ rowKeywords, ∀ longer ∈ rowKeywords, keyword.toList <+: longer.toList →
    ∀ c ∈ (longer.toList.drop keyword.toList.length).head?, c = 'R' := by
  have each : ∀ keyword ∈ rowKeywords, ∀ longer ∈ rowKeywords, keyword.toList <+: longer.toList →
      (longer.toList.drop keyword.toList.length).head?.all (· == 'R') = true := by decide
  intro keyword among longer also begins c first
  have letter := each keyword among longer also begins
  rw [Option.mem_def.mp first] at letter
  exact of_decide_eq_true letter

/-- Only basic letters have a basic capital. -/
theorem basic_of_toUpper {c : Char} (capital : c.toUpper.isUpper = true) : c.toNat < 128 := by
  refine Nat.lt_of_not_le fun foreign => ?_
  rw [toUpper_foreign foreign] at capital
  have bound : c.toNat ≤ 90 := (of_decide_eq_true capital : 'A'.val ≤ c.val ∧ c.val ≤ 'Z'.val).2
  omega

namespace IsRowKeyword

variable {word : String}

theorem capital (known : IsRowKeyword word) : word ≠ "" ∧ ∀ c ∈ word.toList, c.toUpper.isUpper = true := by
  obtain ⟨keyword, among, spelled⟩ := known
  obtain ⟨some, capitals⟩ := rowKeywords_capital keyword among
  constructor
  · rintro rfl
    exact some (String.toList_inj.mp spelled.symm)
  · intro c member
    exact capitals _ (spelled ▸ List.mem_map_of_mem member)

theorem toList_ne_nil (known : IsRowKeyword word) : word.toList ≠ [] :=
  fun none => known.capital.1 (String.toList_inj.mp none)

/-- A letter is neither white space nor part of a lead. -/
theorem solid (known : IsRowKeyword word) : ∀ c ∈ word.toList, isBlank c = false ∧ isLead c = false := by
  intro c member
  have capital := known.capital.2 c member
  exact of_basic (P := fun c => c.toUpper.isUpper = true → isBlank c = false ∧ isLead c = false) (by decide +kernel)
    (basic_of_toUpper capital) capital

/-- A keyword in capitals is one of the list. -/
theorem upper_mem (known : IsRowKeyword word) : upper word ∈ rowKeywords := by
  have basic : ∀ c ∈ word.toList, c.toNat < 128 := fun c member => basic_of_toUpper (known.capital.2 c member)
  obtain ⟨keyword, among, spelled⟩ := known
  have same : upper word = keyword := String.toList_inj.mp ((upper_basic basic).trans spelled)
  rwa [same]

/-- A keyword with more text directly behind it is no keyword, unless a letter comes first. -/
theorem upper_append (known : IsRowKeyword word) {c : Char} (ends : continuesWord c = false) (more : List Char) :
    upper (String.ofList (word.toList ++ c :: more)) ∉ rowKeywords := by
  intro longer
  obtain ⟨d, capital, raised⟩ := List.exists_cons_of_ne_nil (upperChar_ne_nil c)
  have spelled : (upper (String.ofList (word.toList ++ c :: more))).toList =
      (upper word).toList ++ d :: (capital ++ more.flatMap upperChar) := by
    simp only [upper, String.toList_ofList, List.flatMap_append, List.flatMap_cons, raised, List.cons_append]
  have begins : (upper word).toList <+: (upper (String.ofList (word.toList ++ c :: more))).toList := by
    rw [spelled]
    exact List.prefix_append _ _
  have letter : d = 'R' := by
    refine rowKeywords_longer _ known.upper_mem _ longer begins d ?_
    rw [spelled, List.drop_left]
    rfl
  have either : c = 'R' ∨ c = 'r' := eq_of_mem_upperChar_r (by rw [raised, letter]; exact List.mem_cons_self)
  rcases either with rfl | rfl <;> exact absurd ends (by decide)

end IsRowKeyword

section Keyword

variable {lead word rest : String}

/-- The parts of a statement as rows of characters; the word may be taken to go on into the rest. -/
theorem parts_toList {front back : List Char} (whole : front ++ back = word.toList ++ rest.toList) :
    lead ++ word ++ rest = String.ofList (lead.toList ++ (front ++ back)) := by
  rw [whole, ← String.toList_inj]
  simp only [String.toList_append, String.toList_ofList, List.append_assoc]

theorem IsRowKeyword.body (known : IsRowKeyword word) (more : List Char) :
    ∀ c ∈ (word.toList ++ more).head?, isLead c = false := by
  obtain ⟨c, letters, spelled⟩ := List.exists_cons_of_ne_nil known.toList_ne_nil
  rw [spelled]
  rintro _ ⟨⟩
  exact (known.solid c (spelled ▸ List.mem_cons_self)).2

/-- A row keyword that ends the statement, or that white space follows. -/
theorem returnsRows_spaced (leads : ∀ c ∈ lead.toList, isLead c = true) (known : IsRowKeyword word)
    (spaced : ∀ c ∈ rest.toList.head?, isBlank c = true) : returnsRows (lead ++ word ++ rest) = .ok true := by
  have body : ∀ c ∈ word.toList.head?, isLead c = false := by simpa using known.body []
  have solid : ∀ c ∈ word.toList, isBlank c = false := fun c member => (known.solid c member).1
  rw [parts_toList rfl, returnsRows_leading leads known.toList_ne_nil body solid spaced, String.ofList_toList,
    List.contains_iff_mem.mpr known.upper_mem]

/-- A row keyword with another sign directly behind it: the word goes on, and is no keyword any more. -/
theorem returnsRows_glued (leads : ∀ c ∈ lead.toList, isLead c = true) (known : IsRowKeyword word) {c : Char}
    {more : List Char} (shape : rest.toList = c :: more) (glued : isBlank c = false) (ends : continuesWord c = false) :
    returnsRows (lead ++ word ++ rest) = .ok false := by
  have stays : ∀ d ∈ more.takeWhile fun d => !isBlank d, isBlank d = false := by
    simpa using List.all_eq_true.mp (List.all_takeWhile (p := fun d => !isBlank d) (l := more))
  have stops : ∀ d ∈ (more.dropWhile fun d => !isBlank d).head?, isBlank d = true := by
    intro d first
    have stopped := List.head?_dropWhile_not (fun d => !isBlank d) more
    rw [first] at stopped
    simpa using stopped
  have whole : (word.toList ++ c :: more.takeWhile fun d => !isBlank d) ++ (more.dropWhile fun d => !isBlank d) =
      word.toList ++ rest.toList := by
    rw [shape, List.append_assoc, List.cons_append, List.takeWhile_append_dropWhile]
  have solid : ∀ d ∈ word.toList ++ c :: more.takeWhile fun d => !isBlank d, isBlank d = false := by
    intro d member
    rcases List.mem_append.mp member with early | late
    · exact (known.solid d early).1
    · rcases List.mem_cons.mp late with rfl | later
      · exact glued
      · exact stays d later
  have longer := known.upper_append ends (more.takeWhile fun d => !isBlank d)
  rw [parts_toList whole, returnsRows_leading leads (by simp) (known.body _) solid stops]
  simpa using longer

/-- A statement behind a row keyword answers with the rows that the engine gave exactly if the keyword ends it or
white space follows the keyword; any other sign directly behind it makes the answer a bare success. -/
theorem execute_keyword (leads : ∀ c ∈ lead.toList, isLead c = true) (known : IsRowKeyword word)
    (ends : ∀ c ∈ rest.toList.head?, continuesWord c = false)
    (ran : Action.on (run db (.text (lead ++ word ++ rest)) params) s = (.ok statement, t)) :
    Action.on (execute db (.text (lead ++ word ++ rest)) params) s =
      (.ok (if rest.toList.head?.all isBlank then some statement.rows else none), t) := by
  have yields : returnsRows (lead ++ word ++ rest) = .ok (rest.toList.head?.all isBlank) := by
    cases shape : rest.toList with
    | nil => exact returnsRows_spaced leads known (by simp [shape])
    | cons c more =>
      cases blank : isBlank c with
      | true => simpa [blank] using returnsRows_spaced leads known (by simpa [shape] using blank)
      | false => simpa [blank] using returnsRows_glued leads known shape blank (ends c (by simp [shape]))
  rw [on_execute ran, yields]
  rfl

/-- A keyword in mixed cases behind a bracket, once with a line end behind it and once with a bracket. -/
theorem execute_keyword_mixed :
    let response : Scripted.Response := { columns := ["a"], rows := [[.int 1]] }
    let db : Database Scripted.Engine :=
      { kind := .sqlite, config := {}, now := ⟨⟨2025, 1, 1⟩, ⟨0, 0, 0, 0, none⟩⟩, driver := Scripted.driver }
    let s : Session Scripted.Engine := { engine := { fallback := response } }
    let lead := "(\t"
    let word := "vAlUeS"
    (∀ c ∈ lead.toList, isLead c = true) ∧ IsRowKeyword word ∧
      ∀ rest ∈ ["\n(1))", "(1))"], (∀ c ∈ rest.toList.head?, continuesWord c = false) ∧
        ∃ statement t, Action.on (run db (.text (lead ++ word ++ rest)) []) s = (.ok statement, t) ∧
          Action.on (execute db (.text (lead ++ word ++ rest)) []) s =
            (.ok (if rest.toList.head?.all isBlank then some statement.rows else none), t) := by
  intro response db s lead word
  have leads : ∀ c ∈ lead.toList, isLead c = true := List.all_eq_true.mp (by decide)
  have known : IsRowKeyword word := ⟨"VALUES", by decide, by decide⟩
  have each : ∀ rest ∈ ["\n(1))", "(1))"], rest.toList.head?.all (fun c => !continuesWord c) = true := by decide
  refine ⟨leads, known, fun rest listed => ?_⟩
  have ends : ∀ c ∈ rest.toList.head?, continuesWord c = false := by
    intro c first
    have apart := each rest listed
    rw [Option.mem_def.mp first] at apart
    simpa using apart
  have runs : ∃ statement t, Action.on (run db (.text (lead ++ word ++ rest)) []) s = (.ok statement, t) := ⟨_, _, rfl⟩
  obtain ⟨statement, t, ran⟩ := runs
  exact ⟨ends, statement, t, ran, execute_keyword leads known ends ran⟩

/-- The row that an engine finds does not come back from a selection that is written without a space. -/
theorem execute_select_star :
    let response : Scripted.Response := { columns := ["a"], rows := [[.int 1]] }
    let db : Database Scripted.Engine :=
      { kind := .sqlite, config := {}, now := ⟨⟨2025, 1, 1⟩, ⟨0, 0, 0, 0, none⟩⟩, driver := Scripted.driver }
    let s : Session Scripted.Engine := { engine := { fallback := response } }
    IsRowKeyword "SELECT" ∧ continuesWord '*' = false ∧
      (Action.on (query db (.text "SELECT*FROM t") []) s).1 = .ok [[("a", .int 1)]] ∧
      (Action.on (execute db (.text "SELECT*FROM t") []) s).1 = .ok none := by
  intro response db s
  exact ⟨⟨"SELECT", by decide, by decide⟩, by decide, rfl, rfl⟩

end Keyword

/-! What a statement says besides its first word. -/

theorem isLead_iff {c : Char} : isLead c = true ↔ c ∈ " \t\r\n(".toList := by simp [isLead, or_assoc]

theorem isLead_toUpper (c : Char) : isLead c.toUpper = isLead c := toUpper_alike (by decide) c

/-- A character that is no white space stands in a lead only if it is a bracket. -/
theorem isLead_of_solid {c : Char} (solid : isBlank c = false) (other : c ≠ '(') : isLead c = false := by
  have spaces : ∀ d ∈ " \t\r\n".toList, isBlank d = true := List.all_eq_true.mp (by decide)
  rw [← Bool.not_eq_true, isLead_iff]
  intro leads
  have space : c ∈ " \t\r\n".toList := by simpa [other] using leads
  rw [spaces c space] at solid
  cases solid

/-- More of a lead before a statement changes nothing. -/
theorem returnsRows_lead {lead : String} (leads : ∀ c ∈ lead.toList, isLead c = true) (sql : String) :
    returnsRows (lead ++ sql) = returnsRows sql := by
  unfold returnsRows
  rw [String.toList_append, dropWhile_lead leads]

/-- Basic capitals in the place of all basic letters change nothing. -/
theorem returnsRows_toUpper (sql : String) : returnsRows sql.toUpper = returnsRows sql := by
  have left : sql.toUpper.toList.dropWhile isLead = (sql.toList.dropWhile isLead).map Char.toUpper := by
    rw [String.toUpper, String.toList_map, List.dropWhile_map]
    simp only [Function.comp_def, isLead_toUpper]
  unfold returnsRows
  rw [left]
  cases sql.toList.dropWhile isLead with
  | nil => rfl
  | cons c rest =>
    rw [List.map_cons]
    dsimp only
    rw [← List.map_cons, firstWord_map isBlank_toUpper]
    cases firstWord (c :: rest) with
    | nil => rfl
    | cons letter letters =>
      change Except.ok (rowKeywords.contains (upper (String.ofList ((letter :: letters).map Char.toUpper)))) = _
      rw [upper_map_toUpper]

/-- White space behind a word ends it, whatever follows. -/
theorem returnsRows_separated {word : String} (filled : word ≠ "") (solid : ∀ c ∈ word.toList, isBlank c = false)
    (other : word.toList.head? ≠ some '(') {c : Char} (blank : isBlank c = true) (rest : String) :
    returnsRows (word ++ String.singleton c ++ rest) = .ok (rowKeywords.contains (upper word)) := by
  have letters : word.toList ≠ [] := fun none => filled (String.toList_inj.mp none)
  have body : ∀ d ∈ word.toList.head?, isLead d = false := by
    intro d first
    refine isLead_of_solid (solid d (List.mem_of_mem_head? first)) ?_
    rintro rfl
    exact other first
  have ends : ∀ d ∈ (c :: rest.toList).head?, isBlank d = true := by
    rintro _ ⟨⟩
    exact blank
  have whole : String.ofList ([] ++ (word.toList ++ c :: rest.toList)) = word ++ String.singleton c ++ rest := by
    rw [← String.toList_inj]
    simp
  have bare : ∀ d ∈ ([] : List Char), isLead d = true := nofun
  have leading := returnsRows_leading bare letters body solid ends
  rwa [whole, String.ofList_toList] at leading

/-- Nothing but its first word decides on what a statement answers. What leads up to the word, the case of basic
letters, and all that stands behind the first white space after the word count for nothing. -/
theorem returnsRows_firstWord :
    (∀ lead : String, (∀ c ∈ lead.toList, c ∈ " \t\r\n(".toList) →
      ∀ sql, returnsRows (lead ++ sql) = returnsRows sql) ∧
    (∀ chosen sql, returnsRows (flipped chosen sql) = returnsRows sql) ∧
    ∀ word : String, word ≠ "" → (∀ c ∈ word.toList, isBlank c = false) → word.toList.head? ≠ some '(' →
      let yields := rowKeywords.contains (upper word)
      ∀ c, isBlank c = true → ∀ rest : String, let sql := word ++ String.singleton c ++ rest
        returnsRows sql = .ok yields ∧
          ∀ {σ : Type} (db : Database σ) (params : List Value) {s t : Session σ} {statement : Statement},
            Action.on (run db (.text sql) params) s = (.ok statement, t) →
              Action.on (execute db (.text sql) params) s = (.ok (if yields then some statement.rows else none), t) := by
  refine ⟨fun lead leads sql => ?_, fun chosen sql => ?_, ?_⟩
  · exact returnsRows_lead (fun c member => isLead_iff.mpr (leads c member)) sql
  · calc returnsRows (flipped chosen sql)
        = returnsRows (flipped chosen sql).toUpper := (returnsRows_toUpper _).symm
      _ = returnsRows sql.toUpper := by rw [toUpper_flipped]
      _ = returnsRows sql := returnsRows_toUpper sql
  · intro word filled solid other yields c blank rest sql
    have known : returnsRows sql = .ok yields := returnsRows_separated filled solid other blank rest
    refine ⟨known, ?_⟩
    intro σ db params s t statement ran
    rw [on_execute ran, known]
    rfl

/-- A selection in mixed cases behind a bracket, and a word with a wide space behind it, after which the rows come back
whatever follows. -/
theorem returnsRows_firstWord_mixed :
    let response : Scripted.Response := { columns := ["a"], rows := [[.int 1]] }
    let db : Database Scripted.Engine :=
      { kind := .sqlite, config := {}, now := ⟨⟨2025, 1, 1⟩, ⟨0, 0, 0, 0, none⟩⟩, driver := Scripted.driver }
    let s : Session Scripted.Engine := { engine := { fallback := response } }
    let lead := "(\r\n\t "
    let chosen := fun place => place % 2 == 0
    (∀ c ∈ lead.toList, c ∈ " \t\r\n(".toList) ∧ flipped chosen "select 'x'" = "SeLeCt 'X'" ∧
      returnsRows (lead ++ flipped chosen "select 'x'") = returnsRows "select 'x'" ∧
      (∀ c ∈ "show".toList, isBlank c = false) ∧ isBlank '\u2003' = true ∧
      ∀ rest ∈ ["-- insert", "(select 1)"], let sql := "show" ++ String.singleton '\u2003' ++ rest
        returnsRows sql = .ok true ∧ ∃ statement t, Action.on (run db (.text sql) []) s = (.ok statement, t) ∧
          Action.on (execute db (.text sql) []) s = (.ok (some statement.rows), t) := by
  intro response db s lead chosen
  obtain ⟨before, alike, first⟩ := returnsRows_firstWord
  have known : IsRowKeyword "show" := ⟨"SHOW", by decide, by decide⟩
  have leads : ∀ c ∈ lead.toList, isLead c = true := List.all_eq_true.mp (by decide)
  have solid : ∀ c ∈ "show".toList, isBlank c = false := fun c member => (known.solid c member).1
  have blank : isBlank '\u2003' = true := by decide
  have yields : rowKeywords.contains (upper "show") = true := by decide +kernel
  have listed : ∀ c ∈ lead.toList, c ∈ " \t\r\n(".toList := fun c member => isLead_iff.mp (leads c member)
  refine ⟨listed, by decide +kernel, (before lead listed _).trans (alike chosen _), solid, blank, fun rest _ => ?_⟩
  obtain ⟨returns, answers⟩ := first "show" known.capital.1 solid (by decide) '\u2003' blank rest
  rw [yields] at returns answers
  have runs : ∃ statement t, Action.on (run db (.text ("show" ++ String.singleton '\u2003' ++ rest)) []) s =
      (.ok statement, t) := ⟨_, _, rfl⟩
  obtain ⟨statement, t, ran⟩ := runs
  exact ⟨returns, statement, t, ran, answers db [] ran⟩

end Database
end DataLayer
