import DataLayer.Proofs.Schema.RoundTrip
import DataLayer.Proofs.Script.Description

/-! What a statement about a table is read as. Main statement: what was said about a table is built into a statement
from which the name of the table, the columns and the commands are read back. -/

namespace DataLayer.Schema

open DataLayer.Text

section Literals

/-- What the literal of a value is read as. -/
def literalReading : Value → LiteralReading
  | .null => .word "NULL".toList
  | .bool true => .word "1".toList
  | .bool false => .word "0".toList
  | .int value => .word (signedDecimal value).toList
  | .float value => .word value.text.toList
  | value => .text value.display.toList

theorem textLiteral_toList (text : String) : (textLiteral text).toList = spell [.quoted '\x27' text.toList] := by
  rw [textLiteral, String.toList_ofList, spell_cons]
  exact (List.append_nil _).symm

theorem literal_spelled (value : Value) : (literal value).toList = spell (literalReading value).lexemes := by
  have word (text : String) : text.toList = spell (LiteralReading.word text.toList).lexemes := (spell_bares _).symm
  cases value with
  | null => exact word "NULL"
  | bool truth => cases truth <;> exact word _
  | int value => exact word _
  | float value => exact word _
  | text value => exact textLiteral_toList _
  | bytes value => exact textLiteral_toList _
  | list items => exact textLiteral_toList _
  | tuple items => exact textLiteral_toList _
  | map entries => exact textLiteral_toList _
  | decimal value => exact textLiteral_toList _
  | date value => exact textLiteral_toList _
  | datetime value => exact textLiteral_toList _
  | time value => exact textLiteral_toList _
  | columnType value => exact textLiteral_toList _
  | engineKind value => exact textLiteral_toList _

theorem literalReading_sound (value : Value) : (literalReading value).Sound := by
  unfold literalReading
  split
  · exact (by decide : Solid "NULL".toList)
  · exact (by decide : Solid "1".toList)
  · exact (by decide : Solid "0".toList)
  · exact solid_signedDecimal _
  · exact Binary64.solid_text _
  · trivial

/-- What a modifier is read as, if it stands in a statement. -/
def Modifier.reading? : Modifier → Option ModifierReading
  | .nullable => some .null
  | .default value => some (.default (literalReading value))
  | .unique => some .unique
  | .change => none

/-- The text that a modifier is read from. -/
def ModifierReading.text (modifier : ModifierReading) : String :=
  String.ofList ([' '].intercalate (modifier.words.map spell))

/-- A modifier stands in a statement as it is read. -/
theorem Modifier.text?_eq (modifier : Modifier) : modifier.text? = modifier.reading?.map ModifierReading.text := by
  cases modifier with
  | nullable => decide
  | unique => decide
  | change => rfl
  | default value =>
    have text : "DEFAULT " ++ literal value = (ModifierReading.default (literalReading value)).text := by
      have first : spell defaultWord = "DEFAULT".toList := spell_bares _
      rw [← String.toList_inj, ModifierReading.text, String.toList_ofList, ModifierReading.words,
        List.map_cons, List.map_cons, List.map_nil, List.intercalate_cons_cons, List.intercalate_singleton, first,
        ← literal_spelled, String.toList_append]
      rfl
    exact congrArg some text

/-- The words of a column are the texts of its modifiers as they are read. -/
theorem filterMap_text? (modifiers : List Modifier) :
    modifiers.filterMap Modifier.text? = (modifiers.filterMap Modifier.reading?).map ModifierReading.text := by
  have same : Modifier.text? = fun modifier => modifier.reading?.map ModifierReading.text := funext Modifier.text?_eq
  rw [same, ← List.map_filterMap]

theorem Modifier.reading?_sound {modifier : Modifier} {reading : ModifierReading}
    (read : modifier.reading? = some reading) : reading.Sound := by
  cases modifier with
  | nullable => cases read; trivial
  | unique => cases read; trivial
  | change => cases read
  | default value =>
    cases read
    exact literalReading_sound value

end Literals

section Types

/-- Holds of the lengths that columns are declared with: none at all, or a number. -/
def isLength : Value → Bool
  | .null => true
  | .bool _ => true
  | .int _ => true
  | _ => false

/-- The type of a column as it stands in a statement. -/
def typeText (dialect : Dialect) (type length : Value) : String :=
  (dialect.columnType type length).toOption.getD ""

/-- Holds of texts no word of which is divided or begins a modifier. -/
def IsType (text : String) : Prop :=
  ∀ word ∈ text.toList.splitOn ' ', Solid word ∧ isKeyword (bares word) = false

instance (text : String) : Decidable (IsType text) :=
  inferInstanceAs (Decidable (∀ word ∈ text.toList.splitOn ' ', Solid word ∧ isKeyword (bares word) = false))

theorem solid_length {length : Value} (number : isLength length = true) :
    Solid (if length.isTruthy then length.display else decimal Dialect.defaultLength).toList := by
  split
  · cases length with
    | null => exact (by decide : Solid "None".toList)
    | bool truth =>
      cases truth with
      | true => exact (by decide : Solid "True".toList)
      | false => exact (by decide : Solid "False".toList)
    | int value => exact solid_signedDecimal value
    | _ => cases number
  · exact solid_decimal _

/-- A word in the middle of which a solid text stands. -/
theorem isType_string {length : Value} (number : isLength length = true) :
    IsType (Dialect.sharedType .string length) := by
  have solid : Solid (Dialect.sharedType .string length).toList := by
    simp only [Dialect.sharedType, String.toList_append]
    exact solid_append (solid_append (by decide) (solid_length number)) (by decide)
  have whole : ' ' ∉ (Dialect.sharedType .string length).toList := by
    intro member
    have plain := solid ' ' member
    simp [isSolid] at plain
  intro word member
  rw [List.splitOn_eq_singleton whole, List.mem_singleton] at member
  subst member
  refine ⟨solid, ?_⟩
  simp [isKeyword, nullWord, uniqueWord, defaultWord, bares, Dialect.sharedType]

theorem ofText?_word (kind : ColumnType) : ColumnType.ofText? kind.word = some kind := by
  cases kind <;> decide

/-- Every type has a text in every dialect. -/
theorem columnType_ok (dialect : Dialect) (kind : ColumnType) {length : Value} (number : isLength length = true) :
    ∃ text, dialect.columnType (.columnType kind) length = .ok text ∧ IsType text := by
  have shared : IsType (Dialect.sharedType kind length) := by
    by_cases string : kind = .string
    · rw [string]
      exact isType_string number
    · have same : Dialect.sharedType kind length = Dialect.sharedType kind .null := by
        cases kind <;> first | rfl | exact absurd rfl string
      have fixed : kind ≠ .string → IsType (Dialect.sharedType kind .null) := by
        cases kind <;> decide
      rw [same]
      exact fixed string
  have known : (Value.columnType kind).text?.bind ColumnType.ofText? = some kind := ofText?_word kind
  unfold Dialect.columnType
  split
  · exact ⟨_, rfl, by decide⟩
  · rw [known]
    exact ⟨_, rfl, shared⟩

end Types

section Words

theorem ModifierReading.words_ne_nil (modifier : ModifierReading) : modifier.words.map spell ≠ [] := by
  cases modifier <;> simp [ModifierReading.words]

/-- The words of a column, written one after the other. -/
theorem ColumnReading.spell_words (c : ColumnReading) :
    spell ([Lexeme.bare ' '].intercalate c.words) =
      [' '].intercalate ((Lexeme.quoted '\x60' c.name).spelling :: c.type ::
        c.modifiers.map fun modifier => modifier.text.toList) := by
  -- One row for the name, one for the type, one for each modifier: joined, each row is one text.
  let rows : List (List (List Char)) :=
    [(Lexeme.quoted '\x60' c.name).spelling] :: c.type.splitOn ' ' ::
      c.modifiers.map fun modifier => modifier.words.map spell
  have some : ∀ row ∈ rows, row ≠ [] := by
    refine List.forall_mem_cons.mpr ⟨List.cons_ne_nil _ _, List.forall_mem_cons.mpr ⟨by simp, ?_⟩⟩
    intro row member
    obtain ⟨modifier, inside, rfl⟩ := List.mem_map.mp member
    exact modifier.words_ne_nil
  have flat : c.words.map spell = rows.flatten := by
    have name : spell [.quoted '\x60' c.name] = (Lexeme.quoted '\x60' c.name).spelling := List.append_nil _
    simp only [rows, ColumnReading.words, List.map_cons, List.map_append, name, typeWords_spelled, List.flatten_cons,
      List.singleton_append, List.flatMap_def, List.map_flatten, List.map_map, Function.comp_def]
  have joined : rows.map [' '].intercalate = (Lexeme.quoted '\x60' c.name).spelling :: c.type ::
      c.modifiers.map fun modifier => modifier.text.toList := by
    have type : [' '].intercalate (c.type.splitOn ' ') = c.type := List.intercalate_splitOn ' '
    simp only [rows, List.map_cons, List.intercalate_singleton, type, List.map_map, Function.comp_def,
      ModifierReading.text, String.toList_ofList]
  rw [spell_intercalate, flat, ← joined, intercalate_flatten some]
  rfl

end Words

section Columns

/-- Holds of the members of the closed set of types. -/
def isColumnType : Value → Bool
  | .columnType _ => true
  | _ => false

/-- Holds of declarations with a text for a name, a type of the closed set, and a length that is one. -/
structure Declaration.Plain (declaration : Declaration) : Prop where
  name : declaration.name.text?.isSome
  type : isColumnType declaration.type
  length : isLength declaration.length

instance (declaration : Declaration) : Decidable declaration.Plain :=
  decidable_of_iff (declaration.name.text?.isSome ∧ isColumnType declaration.type ∧ isLength declaration.length)
    ⟨fun ⟨name, type, length⟩ => ⟨name, type, length⟩, fun ⟨name, type, length⟩ => ⟨name, type, length⟩⟩

/-- Holds of texts without quotes and commas. -/
def IsBare (text : String) : Prop := Unquoted text.toList ∧ ',' ∉ text.toList

instance (text : String) : Decidable (IsBare text) :=
  inferInstanceAs (Decidable (Unquoted text.toList ∧ ',' ∉ text.toList))

/-- Holds of remarks that declare a column plainly or give a renamed one a type without quotes and commas. -/
def Remark.Plain : Remark → Prop
  | .column declaration => declaration.Plain
  | .renameColumn _ _ definition => IsBare definition.display
  | _ => True

instance : DecidablePred Remark.Plain
  | .column declaration => inferInstanceAs (Decidable declaration.Plain)
  | .renameColumn _ _ definition => inferInstanceAs (Decidable (IsBare definition.display))
  | .modifier _ _ => .isTrue trivial
  | .dropColumn _ => .isTrue trivial

namespace Remarks

/-- Holds of rows of such remarks. -/
def Plain (remarks : Remarks) : Prop := ∀ remark ∈ remarks, remark.Plain

instance (remarks : Remarks) : Decidable remarks.Plain :=
  inferInstanceAs (Decidable (∀ remark ∈ remarks, remark.Plain))

theorem Plain.declarations {remarks : Remarks} (plain : remarks.Plain) :
    ∀ declaration ∈ remarks.declarations, declaration.Plain := by
  intro declaration member
  obtain ⟨remark, inside, declared⟩ := List.mem_filterMap.mp member
  cases remark <;> cases declared
  exact plain _ inside

/-- What the column at a position is read as. -/
def columnReading (remarks : Remarks) (isCreate : Bool) (dialect : Dialect) (position : Nat)
    (declaration : Declaration) : ColumnReading where
  name := declaration.name.word.toList
  type := (typeText dialect declaration.type declaration.length).toList
  modifiers := (remarks.modifiersAt position).filterMap Modifier.reading?
  changed := !isCreate && (remarks.modifiersAt position).any Modifier.isChange

/-- What the columns are read as. -/
def columnReadings (remarks : Remarks) (isCreate : Bool) (dialect : Dialect) : List ColumnReading :=
  remarks.declarations.mapIdx (remarks.columnReading isCreate dialect)

/-- What the statement is read as: every column, and in one that alters its table every command. -/
def reading (remarks : Remarks) (table : Value) (isCreate : Bool) (dialect : Dialect) : StatementReading where
  table := table.word.toList
  parts := (remarks.columnReadings isCreate dialect).map .column ++
    if isCreate then [] else remarks.commands.map fun command => .command command.toList

variable {remarks : Remarks} {isCreate : Bool} {dialect : Dialect} {position : Nat} {declaration : Declaration}

theorem typeText_ok (plain : declaration.Plain) (dialect : Dialect) :
    dialect.columnType declaration.type declaration.length =
        .ok (typeText dialect declaration.type declaration.length) ∧
      IsType (typeText dialect declaration.type declaration.length) := by
  obtain ⟨kind, typed⟩ : ∃ kind, declaration.type = .columnType kind := by
    have member := plain.type
    unfold isColumnType at member
    split at member
    · next kind typed => exact ⟨kind, typed⟩
    · cases member
  obtain ⟨text, spelled, words⟩ := columnType_ok dialect kind plain.length
  rw [typed, typeText, spelled]
  exact ⟨rfl, words⟩

theorem columnReading_sound (plain : declaration.Plain) :
    (remarks.columnReading isCreate dialect position declaration).Sound isCreate where
  type := (typeText_ok plain dialect).2
  changed create := by simp [columnReading, create]
  modifiers modifier member := by
    obtain ⟨said, -, read⟩ := List.mem_filterMap.mp member
    exact Modifier.reading?_sound read

/-- The text of a column in a statement. -/
def columnText (remarks : Remarks) (isCreate : Bool) (dialect : Dialect) (position : Nat)
    (declaration : Declaration) : String :=
  (remarks.columnAt (!isCreate) position declaration).lead ++ " ".intercalate
    (Dialect.quotedName declaration.name.word :: typeText dialect declaration.type declaration.length ::
      (remarks.columnAt (!isCreate) position declaration).modifiers)

theorem render_columnAt (plain : declaration.Plain) :
    (remarks.columnAt (!isCreate) position declaration).render dialect =
      .ok (remarks.columnText isCreate dialect position declaration) := by
  have name : Dialect.quoteIdentifier (remarks.columnAt (!isCreate) position declaration).name =
      .ok (Dialect.quotedName declaration.name.word) := Dialect.quoteIdentifier_text plain.name
  have type : dialect.columnType (remarks.columnAt (!isCreate) position declaration).type
      (remarks.columnAt (!isCreate) position declaration).length = .ok _ := (typeText_ok plain dialect).1
  rw [Column.render, Column.definition, name, type]
  rfl

/-- The text of a column is read as the column. -/
theorem columnText_renders (plain : declaration.Plain) :
    Renders isCreate (remarks.columnText isCreate dialect position declaration)
      (.column (remarks.columnReading isCreate dialect position declaration)) := by
  refine ⟨_, ?_, ColumnReading.fits (columnReading_sound plain)⟩
  have lead : spell ((remarks.columnReading isCreate dialect position declaration).lead isCreate) =
      (remarks.columnAt (!isCreate) position declaration).lead.toList := by
    cases isCreate with
    | true => rfl
    | false =>
      simp only [ColumnReading.lead, columnReading, Column.lead, columnAt, Bool.not_false, Bool.true_and,
        Bool.false_eq_true, ↓reduceIte]
      split
      · exact spell_bares _
      · exact spell_bares _
  rw [ColumnReading.lexemes, spell_append, lead, ColumnReading.spell_words, columnText, String.toList_append,
    String.toList_intercalate, List.map_cons, List.map_cons, quotedName_toList]
  simp only [columnReading, columnAt, filterMap_text?, List.map_map]
  rfl

/-- What does not begin as a column does, and has no comma outside of quotes, is read as a command. -/
theorem renders_command {c : Char} {rest : List Lexeme} {text : String} (add : 'A' ≠ c) (modify : 'M' ≠ c)
    (written : spell (.bare c :: rest) = text.toList) (spaced : Spaced (.bare c :: rest))
    (single : Lexeme.bare ',' ∉ Lexeme.bare c :: rest) : Renders false text (.command text.toList) :=
  ⟨_, written, by rw [readPart_command add modify, written], spaced, single⟩

theorem dropColumn_renders (name : String) :
    let text := "DROP COLUMN " ++ Dialect.quotedName name
    Renders false text (.command text.toList) := by
  intro text
  have written : spell (bares "DROP COLUMN ".toList ++ [.quoted '\x60' name.toList]) = text.toList := by
    simp only [text, spell_append, spell_bares, String.toList_append, quotedName_toList]
    exact congrArg _ (List.append_nil _)
  have spaced : Spaced (bares "DROP COLUMN ".toList ++ [.quoted '\x60' name.toList]) :=
    spaced_bares_append (by decide) ⟨rfl, trivial, trivial⟩
  have single : Lexeme.bare ',' ∉ bares "DROP COLUMN ".toList ++ [.quoted '\x60' name.toList] := by
    rw [List.mem_append, not_or]
    exact ⟨not_mem_bares (by decide), by simp⟩
  exact renders_command (by decide) (by decide) written spaced single

theorem renameColumn_renders (source target : String) {definition : String} (plain : IsBare definition) :
    let text := "CHANGE COLUMN " ++ Dialect.quotedName source ++ " " ++ Dialect.quotedName target ++ " " ++ definition
    Renders false text (.command text.toList) := by
  intro text
  let rest : List Lexeme := .quoted '\x60' source.toList :: .bare ' ' :: .quoted '\x60' target.toList :: .bare ' ' ::
    bares definition.toList
  have written : spell (bares "CHANGE COLUMN ".toList ++ rest) = text.toList := by
    simp only [text, rest, spell_append, spell_cons, spell_bares, String.toList_append, quotedName_toList,
      List.append_assoc]
    rfl
  have spaced : Spaced (bares "CHANGE COLUMN ".toList ++ rest) :=
    spaced_bares_append (by decide)
      ⟨rfl, trivial, rfl, rfl, trivial, rfl, spaced_bares plain.1⟩
  have single : Lexeme.bare ',' ∉ bares "CHANGE COLUMN ".toList ++ rest := by
    have last : Lexeme.bare ',' ∉ bares definition.toList := not_mem_bares plain.2
    rw [List.mem_append, not_or]
    exact ⟨not_mem_bares (by decide), by simp [rest, last]⟩
  exact renders_command (by decide) (by decide) written spaced single

theorem commands_render (plain : remarks.Plain) {command : String} (said : command ∈ remarks.commands) :
    Renders false command (.command command.toList) := by
  obtain ⟨remark, member, made⟩ := List.mem_filterMap.mp said
  cases remark with
  | column declaration => cases made
  | modifier position modifier => cases made
  | dropColumn name =>
    cases made
    exact dropColumn_renders _
  | renameColumn source target definition =>
    cases made
    exact renameColumn_renders _ _ (plain _ member)

/-- The texts of the columns. -/
def columnTexts (remarks : Remarks) (isCreate : Bool) (dialect : Dialect) : List String :=
  remarks.declarations.mapIdx (remarks.columnText isCreate dialect)

/-- The texts of all parts of a statement. -/
def partTexts (remarks : Remarks) (isCreate : Bool) (dialect : Dialect) : List String :=
  remarks.columnTexts isCreate dialect ++ if isCreate then [] else remarks.commands

theorem forall₂_mapIdx {α β γ : Type} {R : β → γ → Prop} {items : List α} {f : Nat → α → β} {g : Nat → α → γ}
    (related : ∀ position, ∀ item ∈ items, R (f position item) (g position item)) :
    List.Forall₂ R (items.mapIdx f) (items.mapIdx g) := by
  refine List.forall₂_iff_get.mpr ⟨by simp, fun position one two => ?_⟩
  have inside : position < items.length := by simpa using one
  simpa using related position items[position] (List.getElem_mem inside)

theorem renderedColumns_ok (plain : remarks.Plain) (table : Value) :
    (remarks.blueprint table isCreate dialect).renderedColumns = .ok (remarks.columnTexts isCreate dialect) :=
  mapM_eq_ok.mpr (forall₂_mapIdx fun _ declaration member => render_columnAt (plain.declarations declaration member))

theorem parts_render (plain : remarks.Plain) (table : Value) (isCreate : Bool) (dialect : Dialect) :
    List.Forall₂ (Renders isCreate) (remarks.partTexts isCreate dialect)
      (remarks.reading table isCreate dialect).parts := by
  have columns : List.Forall₂ (Renders isCreate) (remarks.columnTexts isCreate dialect)
      ((remarks.columnReadings isCreate dialect).map .column) :=
    List.forall₂_map_right_iff.mpr (forall₂_mapIdx fun _ declaration member =>
      columnText_renders (plain.declarations declaration member))
  refine List.rel_append columns ?_
  cases isCreate with
  | true => exact .nil
  | false => exact List.forall₂_map_right_iff.mpr (List.forall₂_same.mpr fun _ said => commands_render plain said)

/-- What was said about a table is built into a statement that is read as what was said. -/
theorem build_read (plain : remarks.Plain) {table : Value} (named : table.text?.isSome)
    (content : (remarks.reading table isCreate dialect).parts ≠ []) :
    ∃ sql, (remarks.blueprint table isCreate dialect).build = .ok (some sql) ∧
      readStatement dialect isCreate sql = some (remarks.reading table isCreate dialect) := by
  have renders := parts_render plain table isCreate dialect
  have filled : remarks.partTexts isCreate dialect ≠ [] := by
    intro empty
    rw [empty] at renders
    exact content (List.forall₂_nil_left_iff.mp renders)
  have built := Blueprint.build_ok (renderedColumns_ok plain table) (Dialect.quoteIdentifier_text named) filled
    (by simp [columnTexts, length_columns])
  exact ⟨_, built, readStatement_renders filled renders table.word⟩

/-- A default value that is a text is read as that text. -/
theorem default_read (grounded : remarks.Grounded) (table : Value) {text : String}
    (said : Modifier.default (.text text) ∈ remarks.modifiersAt position) :
    ∃ column, (remarks.reading table isCreate dialect).parts[position]? = some (.column column) ∧
      ModifierReading.default (.text text.toList) ∈ column.modifiers := by
  have declared : position < remarks.declarations.length := by
    by_contra beyond
    rw [grounded position (by omega)] at said
    cases said
  refine ⟨remarks.columnReading isCreate dialect position remarks.declarations[position], ?_, ?_⟩
  · have inside : position < ((remarks.columnReadings isCreate dialect).map PartReading.column).length := by
      simpa [columnReadings] using declared
    rw [reading, List.getElem?_append_left inside]
    simp [columnReadings, declared]
  · exact List.mem_filterMap.mpr ⟨_, said, rfl⟩

/-- A table with columns, or one that is altered by commands, has something to say. -/
theorem parts_ne_nil {table : Value} (content : (remarks.blueprint table isCreate dialect).columns ≠ [] ∨
    isCreate = false ∧ (remarks.blueprint table isCreate dialect).commands ≠ []) :
    (remarks.reading table isCreate dialect).parts ≠ [] := by
  rcases content with columns | ⟨rfl, commands⟩
  · simp only [blueprint, ne_eq, List.mapIdx_eq_nil_iff] at columns
    simp [reading, columnReadings, columns]
  · change remarks.commands ≠ [] at commands
    simp [reading, commands]

/-- Only what has a name and something to say is built. -/
theorem content_of_build {table : Value} {sql : String}
    (built : (remarks.blueprint table isCreate dialect).build = .ok (some sql)) :
    table.text?.isSome ∧ (remarks.reading table isCreate dialect).parts ≠ [] := by
  unfold Blueprint.build at built
  cases isCreate with
  | true =>
    cases created : (remarks.blueprint table true dialect).createStatement with
    | error fault =>
      rw [created] at built
      cases built
    | ok text =>
      obtain ⟨-, name, -, named, some, -⟩ := Blueprint.createStatement_eq_ok created
      exact ⟨(Dialect.quoteIdentifier_eq_ok.mp named).1,
        by simpa [blueprint, reading, columnReadings] using some⟩
  | false =>
    obtain ⟨columns, name, rendered, named, some, -⟩ := Blueprint.alterStatement_eq_ok built
    refine ⟨(Dialect.quoteIdentifier_eq_ok.mp named).1, fun empty => some ?_⟩
    have silent : remarks.declarations = [] ∧ remarks.commands = [] := by
      simpa [reading, columnReadings] using empty
    have none : columns = [] := by
      have texts : (remarks.blueprint table false dialect).renderedColumns = .ok [] := by
        simp only [Blueprint.renderedColumns, blueprint, silent.1]
        rfl
      rw [texts] at rendered
      exact (Except.ok.inj rendered).symm
    simp only [none, List.nil_append]
    exact silent.2

end Remarks
end Columns

section Likeness

/-- Columns that are declared alike, whatever values they were declared with. -/
structure Column.Alike (dialect : Dialect) (first second : Column) : Prop where
  name : first.name.text? = second.name.text?
  type : dialect.columnType first.type first.length = dialect.columnType second.type second.length
  modifiers : first.modifiers = second.modifiers
  changed : first.changed = second.changed

/-- Blueprints of tables that are described alike. -/
structure Blueprint.Alike (first second : Blueprint) : Prop where
  table : first.table.text? = second.table.text?
  columns : List.Forall₂ (Column.Alike first.dialect) first.columns second.columns
  commands : first.isCreate = false → first.commands = second.commands

theorem text?_eq_of_word {first second : Value} (one : first.text?.isSome) (two : second.text?.isSome)
    (same : first.word.toList = second.word.toList) : first.text? = second.text? := by
  obtain ⟨text, first⟩ := Option.isSome_iff_exists.mp one
  obtain ⟨other, second⟩ := Option.isSome_iff_exists.mp two
  have equal := String.toList_inj.mp same
  simp only [Value.word, first, second, Option.getD_some] at equal
  rw [first, second, equal]

variable {remarks others : Remarks} {isCreate : Bool} {dialect : Dialect}

/-- Columns that are read alike are declared alike. -/
theorem columnAt_alike {position : Nat} {declaration other : Declaration} (plain : declaration.Plain)
    (more : other.Plain)
    (same : remarks.columnReading isCreate dialect position declaration =
      others.columnReading isCreate dialect position other) :
    Column.Alike dialect (remarks.columnAt (!isCreate) position declaration)
      (others.columnAt (!isCreate) position other) := by
  simp only [Remarks.columnReading, ColumnReading.mk.injEq] at same
  obtain ⟨name, type, modifiers, changed⟩ := same
  refine ⟨text?_eq_of_word plain.name more.name name, ?_, ?_, changed⟩
  · have text := String.toList_inj.mp type
    exact (Remarks.typeText_ok plain dialect).1.trans (text ▸ (Remarks.typeText_ok more dialect).1.symm)
  · simp only [Remarks.columnAt, filterMap_text?, modifiers]

theorem columns_alike (plain : remarks.Plain) (more : others.Plain)
    (same : remarks.columnReadings isCreate dialect = others.columnReadings isCreate dialect) :
    List.Forall₂ (Column.Alike dialect) (remarks.declarations.mapIdx (remarks.columnAt !isCreate))
      (others.declarations.mapIdx (others.columnAt !isCreate)) := by
  have count : remarks.declarations.length = others.declarations.length := by
    simpa [Remarks.columnReadings] using congrArg List.length same
  refine List.forall₂_iff_get.mpr ⟨by simpa using count, fun position one two => ?_⟩
  have inside : position < remarks.declarations.length := by simpa using one
  have within : position < others.declarations.length := by simpa using two
  have read := congrArg (fun readings => readings[position]?) same
  simp only [Remarks.columnReadings, List.getElem?_mapIdx, List.getElem?_eq_getElem inside,
    List.getElem?_eq_getElem within, Option.map_some, Option.some.injEq] at read
  simpa using columnAt_alike (plain.declarations _ (List.getElem_mem inside))
    (more.declarations _ (List.getElem_mem within)) read

/-- The column that a part of a statement is read as. -/
def PartReading.column? : PartReading → Option ColumnReading
  | .column read => some read
  | .command _ => none

/-- The text of the command that a part of a statement is read as. -/
def PartReading.command? : PartReading → Option String
  | .column _ => none
  | .command chars => some (String.ofList chars)

theorem columns_of_parts (remarks : Remarks) (table : Value) (isCreate : Bool) (dialect : Dialect) :
    (remarks.reading table isCreate dialect).parts.filterMap PartReading.column? =
      remarks.columnReadings isCreate dialect := by
  have commands : (if isCreate then [] else remarks.commands.map fun command =>
      PartReading.command command.toList).filterMap PartReading.column? = [] := by
    cases isCreate <;> simp [PartReading.column?]
  rw [Remarks.reading, List.filterMap_append, commands, List.append_nil, List.filterMap_map]
  exact List.filterMap_some

theorem commands_of_parts (remarks : Remarks) (table : Value) (dialect : Dialect) :
    (remarks.reading table false dialect).parts.filterMap PartReading.command? = remarks.commands := by
  have columns : ((remarks.columnReadings false dialect).map PartReading.column).filterMap
      PartReading.command? = [] := by
    simp [PartReading.command?]
  have texts : (remarks.commands.map fun command => PartReading.command command.toList).filterMap
      PartReading.command? = remarks.commands := by
    simp [List.filterMap_map, Function.comp_def, PartReading.command?]
  rw [Remarks.reading, List.filterMap_append, columns, List.nil_append]
  exact texts

/-- Tables about which the same is read are described alike. -/
theorem blueprint_alike (plain : remarks.Plain) (more : others.Plain) {table other : Value}
    (named : table.text?.isSome) (known : other.text?.isSome)
    (same : remarks.reading table isCreate dialect = others.reading other isCreate dialect) :
    Blueprint.Alike (remarks.blueprint table isCreate dialect) (others.blueprint other isCreate dialect) := by
  have name := congrArg StatementReading.table same
  have columns : remarks.columnReadings isCreate dialect = others.columnReadings isCreate dialect := by
    rw [← columns_of_parts remarks table, same, columns_of_parts]
  refine ⟨text?_eq_of_word named known name, columns_alike plain more columns, ?_⟩
  rintro rfl
  change remarks.commands = others.commands
  rw [← commands_of_parts remarks table dialect, same, commands_of_parts]

/-- Tables that are built into the same statement are described alike. -/
theorem blueprint_alike_of_build (plain : remarks.Plain) (more : others.Plain) {table other : Value} {sql : String}
    (built : (remarks.blueprint table isCreate dialect).build = .ok (some sql))
    (again : (others.blueprint other isCreate dialect).build = .ok (some sql)) :
    Blueprint.Alike (remarks.blueprint table isCreate dialect) (others.blueprint other isCreate dialect) := by
  have readBack {remarks : Remarks} {table : Value} (plain : remarks.Plain)
      (built : (remarks.blueprint table isCreate dialect).build = .ok (some sql)) :
      table.text?.isSome ∧ readStatement dialect isCreate sql = some (remarks.reading table isCreate dialect) := by
    obtain ⟨named, content⟩ := Remarks.content_of_build built
    obtain ⟨text, same, read⟩ := Remarks.build_read plain named content
    cases built.symm.trans same
    exact ⟨named, read⟩
  obtain ⟨named, first⟩ := readBack plain built
  obtain ⟨known, second⟩ := readBack more again
  exact blueprint_alike plain more named known (Option.some.inj (first.symm.trans second))

end Likeness

end DataLayer.Schema

/-! Statements that steps on blueprints are built into. Main statement: such a statement is read back, and nothing that
is described otherwise is built into the same one. -/

namespace DataLayer.Script

open DataLayer.Schema DataLayer.Text

namespace BlueprintStep

/-- A text that a blueprint is built into, and what is read from it. -/
structure BuiltReadably (start : Draft) (steps : List BlueprintStep) (sql : String) : Prop where
  built : (performAll start steps).blueprint.build = .ok (some sql)
  /-- The statement is read as the table, its columns with their types and modifiers, and its commands. -/
  read : readStatement start.blueprint.dialect start.blueprint.isCreate sql =
    some ((remarksAll start steps).reading start.blueprint.table start.blueprint.isCreate start.blueprint.dialect)
  /-- A text that is a default value is read as that very text. -/
  defaults : ∀ statement, readStatement start.blueprint.dialect start.blueprint.isCreate sql = some statement →
    ∀ position text, Modifier.default (.text text) ∈ (remarksAll start steps).modifiersAt position →
      ∃ column, statement.parts[position]? = some (.column column) ∧
        ModifierReading.default (.text text.toList) ∈ column.modifiers
  /-- What is built into the same statement is described alike. -/
  unique : ∀ table b flag others, Blueprint.start table start.blueprint.isCreate start.blueprint.dialect = .ok b →
    (remarksAll ⟨b, flag⟩ others).Plain → (performAll ⟨b, flag⟩ others).blueprint.build = .ok (some sql) →
    Blueprint.Alike (performAll start steps).blueprint (performAll ⟨b, flag⟩ others).blueprint

variable {table : Value} {isCreate : Bool} {dialect : Dialect} {b : Blueprint}

theorem performAll_blueprint (started : Blueprint.start table isCreate dialect = .ok b) (flag : Value)
    (steps : List BlueprintStep) :
    (performAll ⟨b, flag⟩ steps).blueprint = (remarksAll ⟨b, flag⟩ steps).blueprint table isCreate dialect := by
  rw [(started_recorded started flag steps).draft, start_eq_ok started]
  rfl

/-- What is described is read back from the statement that it is built into. -/
theorem build_decoded (started : Blueprint.start table isCreate dialect = .ok b) (named : table.text?.isSome)
    (flag : Value) (steps : List BlueprintStep) (plain : (remarksAll ⟨b, flag⟩ steps).Plain)
    (content : (performAll ⟨b, flag⟩ steps).blueprint.columns ≠ [] ∨
      isCreate = false ∧ (performAll ⟨b, flag⟩ steps).blueprint.commands ≠ []) :
    ∃ sql, BuiltReadably ⟨b, flag⟩ steps sql := by
  have described := performAll_blueprint started flag steps
  have grounded := (started_recorded started flag steps).grounded
  have start := start_eq_ok started
  rw [described] at content
  obtain ⟨sql, built, read⟩ := Remarks.build_read plain named (Remarks.parts_ne_nil content)
  subst start
  refine ⟨sql, described ▸ built, read, ?_, ?_⟩
  · intro statement known position text said
    cases read.symm.trans known
    exact Remarks.default_read grounded table said
  · intro other d mark others begun more again
    rw [performAll_blueprint begun mark others] at again ⊢
    rw [described]
    exact blueprint_alike_of_build plain more built again

/-- Hostile names and default values, in a table that is altered through handles, shortcuts and commands. -/
theorem build_decoded_hostile :
    let start : Draft := ⟨{ table := .text "a` (b", isCreate := false, dialect := .sqlite }, .bool false⟩
    let steps : List BlueprintStep :=
      [{ call := { name := "increments", args := [.text "`, DROP COLUMN `id"] } },
        { call := { name := "string", args := [.text "c'", .int (-5)] } },
        { call := { name := "default", args := [.text "', ADD COLUMN `x` INT NULL"] } },
        { call := { name := "nullable" } }, { call := { name := "change" }, column := some 0 },
        { call := { name := "drop_column", args := [.text "d`` "] } },
        { call := { name := "rename_column", args := [.text "e", .text "f);", .text "INT (1);"] } }]
    Blueprint.start (.text "a` (b") false .sqlite = .ok start.blueprint ∧ start.blueprint.table.text?.isSome ∧
      (remarksAll start steps).Plain ∧ (performAll start steps).blueprint.columns ≠ [] ∧
      (∃ sql, BuiltReadably start steps sql) ∧
      (performAll start steps).blueprint.build.toOption = some (some ("ALTER TABLE `a`` (b` " ++
        "MODIFY COLUMN ```, DROP COLUMN ``id` INTEGER PRIMARY KEY AUTOINCREMENT, " ++
        "ADD COLUMN `c'` VARCHAR(-5) DEFAULT ''', ADD COLUMN `x` INT NULL' NULL, " ++
        "DROP COLUMN `d```` `, CHANGE COLUMN `e` `f);` INT (1);;")) := by
  intro start steps
  have started : Blueprint.start (.text "a` (b") false .sqlite = .ok start.blueprint := by rfl
  have content : (performAll start steps).blueprint.columns ≠ [] := by
    have columns : (performAll start steps).blueprint.columns.length = 2 := by decide +kernel
    exact List.ne_nil_of_length_pos (by omega)
  have plain : (remarksAll start steps).Plain := by decide +kernel
  have built := build_decoded started rfl (.bool false) steps plain (.inl content)
  exact ⟨started, rfl, plain, content, built, by decide +kernel⟩

end BlueprintStep
end DataLayer.Script
