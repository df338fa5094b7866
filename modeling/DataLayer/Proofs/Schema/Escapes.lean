import DataLayer.Proofs.Schema.Remarks
import DataLayer.Proofs.Schema.Respelling

/-! Texts as defaults of columns, as a server reads them: between single quotes a doubled quote stands for one quote,
and a backslash together with the character behind it for another. A literal only doubles the quotes of its text; main
statement: it is read as its text exactly when every backslash of the text stands before a percent sign or an
underscore, where a server keeps it. -/

namespace DataLayer.Schema

open DataLayer.Text

/-- What a backslash and the character behind it stand for. -/
def escaped : Char → List Char
  | 'n' => ['\n']
  | 't' => ['\t']
  | 'r' => ['\r']
  | 'b' => ['\x08']
  | '0' => ['\x00']
  | 'Z' => ['\x1a']
  | '%' => ['\\', '%']
  | '_' => ['\\', '_']
  | c => [c]

/-- What is read when some characters were read before. -/
def ahead (front : List Char) (read : Option (List Char × List Char)) : Option (List Char × List Char) :=
  read.map fun (text, rest) => (front ++ text, rest)

/-- Reads up to the closing quote: what is left of the text, and what stands behind the quote. -/
def readInside : List Char → Option (List Char × List Char)
  | [] => none
  | ['\\'] => none
  | '\\' :: c :: rest => ahead (escaped c) (readInside rest)
  | '\x27' :: '\x27' :: rest => ahead ['\x27'] (readInside rest)
  | '\x27' :: rest => some ([], rest)
  | c :: rest => ahead [c] (readInside rest)

/-- Reads a text between single quotes, and what stands behind it. -/
def readText? : List Char → Option (List Char × List Char)
  | '\x27' :: rest => readInside rest
  | _ => none

/-- What the literal of a text is read as, if its own last quote closes it. A backslash hides the next quote, and then
the one that was to double it ends the literal too early. -/
def heard : List Char → Option (List Char)
  | [] => some []
  | ['\\'] => none
  | '\\' :: '\x27' :: _ => none
  | '\\' :: c :: rest => (heard rest).map (escaped c ++ ·)
  | c :: rest => (heard rest).map ([c] ++ ·)

/-- Holds of texts in which a percent sign or an underscore stands behind every backslash. -/
def IsKept : List Char → Prop
  | [] => True
  | c :: rest => (c = '\\' → rest.head? = some '%' ∨ rest.head? = some '_') ∧ IsKept rest

instance : (text : List Char) → Decidable (IsKept text)
  | [] => .isTrue trivial
  | c :: rest =>
    have := instDecidableIsKept rest
    inferInstanceAs (Decidable ((c = '\\' → rest.head? = some '%' ∨ rest.head? = some '_') ∧ IsKept rest))

variable {text read rest left : List Char}

/-- A character that is no last backslash, and none before another character either. -/
theorem bare_of_apart {c : Char} (alone : c = '\\' → text = [] → False)
    (escape : ∀ d rest, c = '\\' → text = d :: rest → False) : c ≠ '\\' := by
  intro same
  cases text with
  | nil => exact alone same rfl
  | cons d rest => exact escape d rest same rfl

section Reading

theorem ahead_eq_some {front : List Char} {whole : Option (List Char × List Char)} :
    ahead front whole = some (read, left) ↔ ∃ more, whole = some (more, left) ∧ front ++ more = read := by
  cases whole with
  | none => simp [ahead]
  | some pair =>
    obtain ⟨more, behind⟩ := pair
    constructor
    · rintro ⟨⟩
      exact ⟨more, rfl, rfl⟩
    · rintro ⟨other, ⟨⟩, rfl⟩
      rfl

/-- Reading always takes something away. -/
theorem readInside_shorter {chars : List Char} (reads : readInside chars = some (read, left)) :
    left.length < chars.length := by
  induction chars using readInside.induct generalizing read with
  | case1 => cases reads
  | case2 => cases reads
  | case3 c rest ih =>
    obtain ⟨more, inner, -⟩ := ahead_eq_some.mp reads
    have shorter := ih inner
    simp only [List.length_cons]
    omega
  | case4 rest ih =>
    obtain ⟨more, inner, -⟩ := ahead_eq_some.mp reads
    have shorter := ih inner
    simp only [List.length_cons]
    omega
  | case5 rest single =>
    rw [readInside.eq_5 rest single] at reads
    cases reads
    simp
  | case6 c rest alone escape doubled closing ih =>
    rw [readInside.eq_6 c rest alone escape doubled closing] at reads
    obtain ⟨more, inner, -⟩ := ahead_eq_some.mp reads
    have shorter := ih inner
    simp only [List.length_cons]
    omega

/-- A quote that does not stand twice closes the text. -/
theorem readInside_quote (single : rest.head? ≠ some '\x27') : readInside ('\x27' :: rest) = some ([], rest) :=
  readInside.eq_5 rest fun more doubled => single (by rw [doubled]; rfl)

theorem readInside_plain {c : Char} (bare : c ≠ '\\') (other : c ≠ '\x27') (rest : List Char) :
    readInside (c :: rest) = ahead [c] (readInside rest) :=
  readInside.eq_6 c rest (fun same _ => bare same) (fun _ _ same _ => bare same) (fun _ same _ => other same) other

/-- The text of a literal with its quotes doubled. -/
def doubled (text : List Char) : List Char := replaceChar '\x27' ['\x27', '\x27'] text

theorem doubled_quote (text : List Char) : doubled ('\x27' :: text) = '\x27' :: '\x27' :: doubled text := by
  simp [doubled, replaceChar]

theorem doubled_other {c : Char} (other : c ≠ '\x27') (text : List Char) : doubled (c :: text) = c :: doubled text := by
  simp [doubled, replaceChar, other]

/-- Behind a quote too many, the text is never read up to the end of its literal. -/
theorem readInside_astray (text : List Char) :
    readInside ('\x27' :: (doubled text ++ '\x27' :: rest)) ≠ some (read, rest) := by
  intro reads
  induction text generalizing read with
  | nil =>
    obtain ⟨more, inner, -⟩ := ahead_eq_some.mp reads
    exact absurd (readInside_shorter inner) (Nat.lt_irrefl _)
  | cons c text ih =>
    by_cases quotes : c = '\x27'
    · subst quotes
      rw [doubled_quote] at reads
      obtain ⟨more, inner, -⟩ := ahead_eq_some.mp reads
      exact ih inner
    · rw [doubled_other quotes, List.cons_append, readInside_quote (by simpa using quotes)] at reads
      -- The quote too many ends the text, and all of the literal stands behind it.
      have behind := congrArg List.length (congrArg Prod.snd (Option.some.inj reads))
      simp only [List.length_cons, List.length_append] at behind
      omega

/-- What the literal of a text is read as. -/
theorem readInside_doubled (single : rest.head? ≠ some '\x27') (text read : List Char) :
    readInside (doubled text ++ '\x27' :: rest) = some (read, rest) ↔ heard text = some read := by
  have step (front : List Char) {whole : Option (List Char × List Char)} {later : Option (List Char)} {read : List Char}
      (same : ∀ more, whole = some (more, rest) ↔ later = some more) :
      ahead front whole = some (read, rest) ↔ later.map (front ++ ·) = some read := by
    rw [ahead_eq_some, Option.map_eq_some_iff]
    simp only [same]
  induction text using heard.induct generalizing read with
  | case1 =>
    change readInside ('\x27' :: rest) = _ ↔ some [] = some read
    rw [readInside_quote single]
    simp
  | case2 =>
    -- The last quote is hidden.
    change ahead (escaped '\x27') (readInside rest) = _ ↔ none = some read
    constructor
    · intro reads
      obtain ⟨more, inner, -⟩ := ahead_eq_some.mp reads
      exact absurd (readInside_shorter inner) (Nat.lt_irrefl _)
    · nofun
  | case3 text =>
    rw [doubled_other (by decide), doubled_quote]
    change ahead (escaped '\x27') (readInside ('\x27' :: (doubled text ++ '\x27' :: rest))) = _ ↔ none = some read
    constructor
    · intro reads
      obtain ⟨more, inner, -⟩ := ahead_eq_some.mp reads
      exact absurd inner (readInside_astray text)
    · nofun
  | case4 c text other ih =>
    rw [doubled_other (by decide), doubled_other other, heard.eq_4 c text other]
    exact step (escaped c) ih
  | case5 c text alone quote escape ih =>
    have bare := bare_of_apart alone escape
    rw [heard.eq_5 c text alone quote escape]
    by_cases quotes : c = '\x27'
    · subst quotes
      rw [doubled_quote]
      exact step ['\x27'] ih
    · rw [doubled_other quotes, List.cons_append, readInside_plain bare quotes]
      exact step [c] ih

end Reading

section Keeping

theorem length_escaped (c : Char) : (escaped c).length ≤ 2 := by
  unfold escaped
  split <;> simp

/-- No more is read than was written. -/
theorem length_heard (reads : heard text = some read) : read.length ≤ text.length := by
  induction text using heard.induct generalizing read with
  | case1 =>
    cases reads
    exact Nat.le_refl _
  | case2 => cases reads
  | case3 => cases reads
  | case4 c text other ih =>
    rw [heard.eq_4 c text other] at reads
    obtain ⟨more, later, rfl⟩ := Option.map_eq_some_iff.mp reads
    have shorter := ih later
    have front := length_escaped c
    simp only [List.length_append, List.length_cons]
    omega
  | case5 c text alone quote escape ih =>
    rw [heard.eq_5 c text alone quote escape] at reads
    obtain ⟨more, later, rfl⟩ := Option.map_eq_some_iff.mp reads
    have shorter := ih later
    simp only [List.length_append, List.length_cons, List.length_nil]
    omega

/-- A backslash stays before a percent sign and before an underscore, and before nothing else. -/
theorem escaped_cases (c : Char) :
    (c = '%' ∨ c = '_') ∧ escaped c = ['\\', c] ∨ (c ≠ '%' ∧ c ≠ '_') ∧ (escaped c).length = 1 := by
  unfold escaped
  split <;> simp_all

/-- A text is read as itself exactly when all of its backslashes are kept. -/
theorem heard_eq_self_iff (text : List Char) : heard text = some text ↔ IsKept text := by
  induction text using heard.induct with
  | case1 => exact ⟨fun _ => trivial, fun _ => rfl⟩
  | case2 => simp [heard, IsKept]
  | case3 text => simp [heard, IsKept]
  | case4 c text other ih =>
    rw [heard.eq_4 c text other]
    rcases escaped_cases c with ⟨kept, same⟩ | ⟨⟨percent, underscore⟩, single⟩
    · have bare : c ≠ '\\' := by rcases kept with rfl | rfl <;> decide
      simp [IsKept, same, kept, bare, ih]
    · -- Two characters are read as one, and the rest cannot make up for it.
      have lost : ¬ (heard text).map (escaped c ++ ·) = some ('\\' :: c :: text) := by
        intro reads
        obtain ⟨more, later, whole⟩ := Option.map_eq_some_iff.mp reads
        have shorter := length_heard later
        have total := congrArg List.length whole
        simp only [List.length_append, List.length_cons] at total
        omega
      simp [IsKept, percent, underscore, lost]
  | case5 c text alone quote escape ih =>
    have bare := bare_of_apart alone escape
    rw [heard.eq_5 c text alone quote escape]
    simp [IsKept, bare, ih]

end Keeping

section Defaults

/-- A literal, with something behind it that is no quote, is read as its text exactly when all backslashes are kept. -/
theorem readText?_textLiteral (text : String) (single : rest.head? ≠ some '\x27') :
    readText? ((textLiteral text).toList ++ rest) = some (text.toList, rest) ↔ IsKept text.toList := by
  have spelled : (textLiteral text).toList ++ rest = '\x27' :: (doubled text.toList ++ '\x27' :: rest) := by
    simp [textLiteral, doubled]
  rw [spelled, readText?, readInside_doubled single]
  exact heard_eq_self_iff text.toList

/-- Behind an item of a row stands nothing, or a separator first. -/
theorem mem_intercalate (separator : String) {item : String} {items : List String} (member : item ∈ items) :
    ∃ before after, separator.intercalate items = before ++ item ++ after ∧
      (after = "" ∨ ∃ more, after = separator ++ more) := by
  induction items with
  | nil => cases member
  | cons first rest ih =>
    cases rest with
    | nil =>
      obtain rfl := List.mem_singleton.mp member
      exact ⟨"", "", by simp, .inl rfl⟩
    | cons second others =>
      rw [String.intercalate_cons_cons]
      rcases List.mem_cons.mp member with rfl | later
      · exact ⟨"", separator ++ separator.intercalate (second :: others), by simp [String.append_assoc], .inr ⟨_, rfl⟩⟩
      · obtain ⟨before, after, same, follows⟩ := ih later
        exact ⟨first ++ separator ++ before, after, by rw [same]; simp only [String.append_assoc], follows⟩

/-- What is said about a column stands in its declaration, with nothing or a blank behind it. -/
theorem Column.spelled_mem {c : Column} {said : String} (member : said ∈ c.modifiers) (type : String) :
    ∃ before after, c.spelled type = before ++ said ++ after ∧ (after = "" ∨ ∃ more, after = " " ++ more) := by
  obtain ⟨before, after, same, follows⟩ :=
    mem_intercalate " " (List.mem_cons_of_mem (Dialect.quotedName c.name.word) (List.mem_cons_of_mem type member))
  exact ⟨c.lead ++ before, after, by rw [Column.spelled, same]; simp only [String.append_assoc], follows⟩

/-- What is said about a column stands in the statement of its table, and never right before a quote. -/
theorem Blueprint.build_mem {b : Blueprint} {c : Column} {said sql : String} (column : c ∈ b.columns)
    (member : said ∈ c.modifiers) (built : b.build = .ok (some sql)) :
    ∃ before after, sql = before ++ said ++ after ∧ after.toList.head? ≠ some '\x27' := by
  obtain ⟨-, types, typed, rfl⟩ := Blueprint.build_eq_some.mp built
  obtain ⟨position, inside, rfl⟩ := List.getElem_of_mem column
  have counted : position < types.length := by
    rw [← typed.length_eq]
    exact inside
  have part : b.columns[position].spelled types[position] ∈
      b.partsOf (List.zipWith Column.spelled b.columns types) := by
    refine List.mem_append_left _ (List.mem_iff_getElem.mpr ⟨position, ?_, List.getElem_zipWith⟩)
    rw [List.length_zipWith]
    exact Nat.lt_min.mpr ⟨inside, counted⟩
  obtain ⟨before, after, spelled, follows⟩ := Column.spelled_mem member types[position]
  obtain ⟨opening, closing, row, separates⟩ := mem_intercalate ", " part
  let tail := if b.isCreate then ")" ++ Blueprint.closing b.dialect ++ ";" else ";"
  refine ⟨(if b.isCreate then "CREATE TABLE IF NOT EXISTS " else "ALTER TABLE ") ++ Dialect.quotedName b.table.word ++
    (if b.isCreate then " (" else " ") ++ opening ++ before, after ++ closing ++ tail, ?_, ?_⟩
  · rw [Blueprint.spelled, row, spelled]
    simp only [String.append_assoc, tail]
  · have ends : tail.toList.head? ≠ some '\x27' := by
      cases mode : b.isCreate <;> simp [tail, mode]
    rcases follows with rfl | ⟨more, rfl⟩
    · rcases separates with rfl | ⟨others, rfl⟩
      · simpa using ends
      · simp
    · simp

/-- Given a text as its default, a column keeps it in the statement of its table exactly when a percent sign or an
underscore stands behind every backslash of the text: then the literal ends where it should and is read as the text. -/
theorem default_kept (text : String) :
    (readText? (literal (.text text)).toList = some (text.toList, []) ↔ IsKept text.toList) ∧
      ∀ {remarks : Remarks} {table : Value} {isCreate : Bool} {dialect : Dialect} {position : Nat} {sql : String},
        position < remarks.declarations.length → .default (.text text) ∈ remarks.modifiersAt position →
        (remarks.blueprint table isCreate dialect).build = .ok (some sql) →
        ∃ before after, sql = before ++ "DEFAULT " ++ literal (.text text) ++ after ∧
          (readText? ((literal (.text text)).toList ++ after.toList) = some (text.toList, after.toList) ↔
            IsKept text.toList) := by
  constructor
  · have alone : readText? ((textLiteral text).toList ++ []) = some (text.toList, []) ↔ IsKept text.toList :=
      readText?_textLiteral text nofun
    rwa [List.append_nil] at alone
  · intro remarks table isCreate dialect position sql declared said built
    have column : remarks.columnAt (!isCreate) position remarks.declarations[position] ∈
        (remarks.blueprint table isCreate dialect).columns := List.mem_mapIdx.mpr ⟨position, declared, rfl⟩
    obtain ⟨before, after, rfl, apart⟩ := Blueprint.build_mem column (List.mem_filterMap.mpr ⟨_, said, rfl⟩) built
    exact ⟨before, after, by simp only [String.append_assoc], readText?_textLiteral text apart⟩

/-- A column of shares whose default holds a quote and a percent sign behind a backslash. -/
def shareRemarks : Remarks :=
  [.column ⟨.text "share", .columnType .string, .int 20⟩, .modifier 0 (.default (.text "it's 100\\%")),
    .modifier 0 .nullable]

theorem default_kept_share :
    ∃ sql before after, (shareRemarks.blueprint (.text "sales") true .mysql).build = .ok (some sql) ∧
      sql = before ++ "DEFAULT " ++ literal (.text "it's 100\\%") ++ after ∧
      readText? ((literal (.text "it's 100\\%")).toList ++ after.toList) =
        some ("it's 100\\%".toList, after.toList) := by
  have built : (shareRemarks.blueprint (.text "sales") true .mysql).build = .ok (some
      ("CREATE TABLE IF NOT EXISTS `sales` (`share` VARCHAR(20) DEFAULT 'it''s 100\\%' NULL) " ++
        "ENGINE=InnoDB DEFAULT CHARSET=utf8mb4;")) := rfl
  have declared : 0 < shareRemarks.declarations.length := by decide
  obtain ⟨before, after, same, kept⟩ := (default_kept "it's 100\\%").2 declared (.head _) built
  exact ⟨_, before, after, built, same, kept.mpr (by decide)⟩

/-- One backslash takes the closing quote of its literal away, and the text goes on to the next quote there is; one
before a letter is lost. -/
theorem default_lost :
    readText? (literal (.text "\\")).toList = none ∧
      readText? ((literal (.text "\\")).toList ++ ", `b` INT DEFAULT 'x')".toList) =
        some ("', `b` INT DEFAULT ".toList, "x')".toList) ∧
      readText? (literal (.text "a\\b")).toList = some ("a\x08".toList, []) := by
  decide

end Defaults

end DataLayer.Schema
