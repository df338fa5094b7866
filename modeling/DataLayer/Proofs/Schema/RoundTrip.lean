import Mathlib.Data.List.Forall2
import DataLayer.Proofs.Value
import DataLayer.Proofs.Schema.Reading

/-! Statements about tables are read back. Main statement: a statement that is put together from parts is read back
into what each part is read as, whatever stands between quotes in it. -/

namespace DataLayer.Schema

open DataLayer.Text

variable {isCreate : Bool} {dialect : Dialect}

theorem after?_append (start rest : List Lexeme) : after? start (start ++ rest) = some rest := by
  simp [after?]

theorem before?_append (rest ending : List Lexeme) : before? ending (rest ++ ending) = some rest := by
  simp [before?]

/-- A row that begins with another character does not begin so. -/
theorem after?_other {c d : Char} (other : c ≠ d) (start rest : List Lexeme) :
    after? (.bare c :: start) (.bare d :: rest) = none := by
  simp [after?, other]

/-- A part of a statement that is read in some way. -/
structure Fits (isCreate : Bool) (part : List Lexeme) (reading : PartReading) : Prop where
  reads : readPart isCreate part = some reading
  spaced : Spaced part
  single : Lexeme.bare ',' ∉ part

section Parts

theorem readPart_added (declaration : List Lexeme) :
    readPart false (addWords ++ declaration) =
      (readWords false (declaration.splitOn (Lexeme.bare ' '))).map PartReading.column := by
  simp only [readPart, Bool.false_eq_true, ↓reduceIte, after?_append]

theorem readPart_modified (declaration : List Lexeme) :
    readPart false (modifyWords ++ declaration) =
      (readWords true (declaration.splitOn (Lexeme.bare ' '))).map PartReading.column := by
  have other : after? addWords (modifyWords ++ declaration) = none := after?_other (by decide) _ _
  simp only [readPart, Bool.false_eq_true, ↓reduceIte, other, after?_append]

/-- A part that does not begin as a column does is a command. -/
theorem readPart_command {c : Char} (add : 'A' ≠ c) (modify : 'M' ≠ c) (rest : List Lexeme) :
    readPart false (.bare c :: rest) = some (.command (spell (.bare c :: rest))) := by
  have first : after? addWords (.bare c :: rest) = none := after?_other add _ _
  have second : after? modifyWords (.bare c :: rest) = none := after?_other modify _ _
  simp only [readPart, Bool.false_eq_true, ↓reduceIte, first, second]

theorem not_mem_bares {c : Char} {chars : List Char} (none : c ∉ chars) : Lexeme.bare c ∉ bares chars := by
  intro member
  obtain ⟨other, inside, same⟩ := List.mem_map.mp member
  cases same
  exact none inside

/-- What stands before a column has no quotes and no commas. -/
theorem ColumnReading.lead_bares (isCreate : Bool) (c : ColumnReading) :
    ∃ chars, c.lead isCreate = bares chars ∧ Unquoted chars ∧ ',' ∉ chars := by
  unfold lead
  split
  · exact ⟨[], rfl, by decide, by decide⟩
  · split
    · exact ⟨_, rfl, by decide, by decide⟩
    · exact ⟨_, rfl, by decide, by decide⟩

/-- A column is read back. -/
theorem ColumnReading.fits {c : ColumnReading} (sound : c.Sound isCreate) :
    Fits isCreate (c.lexemes isCreate) (.column c) := by
  have words := ColumnReading.isWord sound
  have split : ([Lexeme.bare ' '].intercalate c.words).splitOn (Lexeme.bare ' ') = c.words :=
    List.splitOn_intercalate _ (fun word member => (words word member).whole) (by simp [ColumnReading.words])
  have read := readWords_words sound
  obtain ⟨chars, lead, plain, single⟩ := c.lead_bares isCreate
  refine ⟨?_, ?_, ?_⟩
  · -- Only in a table that exists does something stand before the column, and tells whether it is changed.
    unfold ColumnReading.lexemes ColumnReading.lead
    cases isCreate with
    | true =>
      rw [sound.changed rfl] at read
      simp only [readPart, ↓reduceIte, List.nil_append, split, read, Option.map_some]
    | false =>
      cases changed : c.changed with
      | true =>
        rw [changed] at read
        simp only [Bool.false_eq_true, ↓reduceIte, readPart_modified, split, read, Option.map_some]
      | false =>
        rw [changed] at read
        simp only [Bool.false_eq_true, ↓reduceIte, readPart_added, split, read, Option.map_some]
  · rw [ColumnReading.lexemes, lead]
    exact spaced_bares_append plain (spaced_intercalate rfl fun word member => (words word member).spaced)
  · rw [ColumnReading.lexemes, lead, List.mem_append, not_or]
    exact ⟨not_mem_bares single, not_mem_intercalate (by decide) fun word member => (words word member).single⟩

end Parts

section Statements

theorem parts_intercalate {rows : Words} (some : rows ≠ []) (single : ∀ row ∈ rows, Lexeme.bare ',' ∉ row) :
    parts ([Lexeme.bare ',', Lexeme.bare ' '].intercalate rows) = rows := by
  cases rows with
  | nil => exact absurd rfl some
  | cons first rest =>
    obtain ⟨one, more⟩ := List.forall_mem_cons.mp single
    have split : ([Lexeme.bare ','].intercalate (first :: rest.map (Lexeme.bare ' ' :: ·))).splitOn (Lexeme.bare ',') =
        first :: rest.map (Lexeme.bare ' ' :: ·) := by
      refine List.splitOn_intercalate _ ?_ (by simp)
      simpa using ⟨one, more⟩
    -- The blank behind a comma belongs to the part that follows.
    have tails : rest.map (List.tail ∘ (Lexeme.bare ' ' :: ·)) = rest := List.map_id rest
    rw [parts, intercalate_pair, split]
    simp only [List.map_map, tails]

theorem spaced_parts {rows : Words} (spaced : ∀ row ∈ rows, Spaced row) :
    Spaced ([Lexeme.bare ',', Lexeme.bare ' '].intercalate rows) := by
  cases rows with
  | nil => trivial
  | cons first rest =>
    obtain ⟨one, more⟩ := List.forall_mem_cons.mp spaced
    rw [intercalate_pair]
    refine spaced_intercalate rfl (List.forall_mem_cons.mpr ⟨one, ?_⟩)
    intro row member
    obtain ⟨part, inside, rfl⟩ := List.mem_map.mp member
    exact ⟨rfl, more part inside⟩

/-- The lexemes of a statement. -/
def statementLexemes (dialect : Dialect) (isCreate : Bool) (table : List Char) (rows : Words) : List Lexeme :=
  opening isCreate ++ .quoted '\x60' table ::
    (gap isCreate ++ ([Lexeme.bare ',', Lexeme.bare ' '].intercalate rows ++ ending isCreate dialect))

theorem spaced_statement (dialect : Dialect) (isCreate : Bool) (table : List Char) {rows : Words}
    (spaced : ∀ row ∈ rows, Spaced row) :
    Spaced (statementLexemes dialect isCreate table rows) := by
  have opens : Unquoted (if isCreate then "CREATE TABLE IF NOT EXISTS " else "ALTER TABLE ").toList := by
    cases isCreate <;> decide
  have parts : Unquoted (if isCreate then " (" else " ").toList := by
    cases isCreate <;> decide
  have ends : Spaced (ending isCreate dialect) := by
    refine spaced_bares ?_
    cases isCreate <;> cases dialect <;> decide
  have first : StartsBare (gap isCreate) := by cases isCreate <;> trivial
  have last : StartsBare (ending isCreate dialect) := by cases isCreate <;> cases dialect <;> trivial
  have body := spaced_append (spaced_parts spaced) ends last
  refine spaced_bares_append opens ⟨rfl, ?_, spaced_bares_append parts body⟩
  cases isCreate <;> trivial

/-- A part of a statement, given by its text, that is read in some way. -/
def Renders (isCreate : Bool) (text : String) (reading : PartReading) : Prop :=
  ∃ part, spell part = text.toList ∧ Fits isCreate part reading

/-- The lexemes of all parts of a statement. -/
theorem rows_of_renders {texts : List String} {readings : List PartReading}
    (renders : List.Forall₂ (Renders isCreate) texts readings) :
    ∃ rows : Words, rows.map spell = texts.map String.toList ∧ rows.mapM (readPart isCreate) = some readings ∧
      ∀ row ∈ rows, Spaced row ∧ Lexeme.bare ',' ∉ row := by
  induction renders with
  | nil => exact ⟨[], rfl, rfl, by simp⟩
  | cons one more ih =>
    obtain ⟨row, spelled, fits⟩ := one
    obtain ⟨rows, spelledAll, read, plain⟩ := ih
    refine ⟨row :: rows, by simp [spelled, spelledAll], by simp [fits.reads, read], ?_⟩
    exact List.forall_mem_cons.mpr ⟨⟨fits.spaced, fits.single⟩, plain⟩

theorem quotedName_toList (name : String) :
    (Dialect.quotedName name).toList = (Lexeme.quoted '\x60' name.toList).spelling := by
  rw [Dialect.quotedName, String.toList_ofList]
  rfl

/-- A statement is read back into what each of its parts is read as. -/
theorem readStatement_renders {texts : List String} {readings : List PartReading} (some : texts ≠ [])
    (renders : List.Forall₂ (Renders isCreate) texts readings) (table : String) :
    readStatement dialect isCreate (Blueprint.statementText dialect isCreate (Dialect.quotedName table) texts) =
      .some { table := table.toList, parts := readings } := by
  obtain ⟨rows, spelled, read, plain⟩ := rows_of_renders renders
  have filled : rows ≠ [] := by
    rintro rfl
    exact some (List.map_eq_nil_iff.mp spelled.symm)
  have written : (Blueprint.statementText dialect isCreate (Dialect.quotedName table) texts).toList =
      spell (statementLexemes dialect isCreate table.toList rows) := by
    have separator : spell [Lexeme.bare ',', Lexeme.bare ' '] = ", ".toList := by decide
    simp only [Blueprint.statementText, statementLexemes, opening, gap, ending, spell_append, spell_cons, spell_bares,
      spell_intercalate, spelled, separator, String.toList_append, String.toList_intercalate, quotedName_toList,
      List.append_assoc]
  have lexed := lex_spell (spaced_statement dialect isCreate table.toList fun row member => (plain row member).1)
  have body := parts_intercalate filled fun row member => (plain row member).2
  rw [readStatement, written, lexed, Option.bind_some, statementLexemes, after?_append]
  simp only [after?_append, Option.bind_some, before?_append, body, read, Option.map_some]

end Statements

end DataLayer.Schema
