import DataLayer.Proofs.Schema.Build
import DataLayer.Proofs.Schema.Remarks
import DataLayer.Proofs.Text.Quotes

/-! Reading a statement about a table back: into the name of the table, the columns with their types and modifiers,
and the commands. Main statement: a declaration is read back from its words. -/

namespace DataLayer.Schema

open DataLayer.Text

/-- A literal as it is read: a word, or a text between single quotes. -/
inductive LiteralReading where
  | word (chars : List Char)
  | text (chars : List Char)
deriving DecidableEq

/-- A modifier as it is read. -/
inductive ModifierReading where
  | null
  | unique
  | default (literal : LiteralReading)
deriving DecidableEq

/-- A column as it is read. -/
structure ColumnReading where
  name : List Char
  type : List Char
  modifiers : List ModifierReading
  changed : Bool
deriving DecidableEq

/-- A part of a statement as it is read: a column, or the text of a command. -/
inductive PartReading where
  | column (column : ColumnReading)
  | command (chars : List Char)
deriving DecidableEq

/-- A statement as it is read. -/
structure StatementReading where
  table : List Char
  parts : List PartReading
deriving DecidableEq

/-- Words of lexemes. -/
abbrev Words := List (List Lexeme)

def nullWord : List Lexeme := bares "NULL".toList
def uniqueWord : List Lexeme := bares "UNIQUE".toList
def defaultWord : List Lexeme := bares "DEFAULT".toList

/-- Holds of the words that begin a modifier. -/
def isKeyword (word : List Lexeme) : Bool := word = nullWord || word = uniqueWord || word = defaultWord

/-- Reads a literal. -/
def readLiteral : List Lexeme → LiteralReading
  | [.quoted '\x27' content] => .text content
  | word => .word (spell word)

/-- Reads modifiers, one or two words at a time. -/
def readModifiers : Words → Option (List ModifierReading)
  | [] => some []
  | word :: rest =>
    if word = nullWord then (readModifiers rest).map (.null :: ·)
    else if word = uniqueWord then (readModifiers rest).map (.unique :: ·)
    else if word = defaultWord then
      match rest with
      | [] => none
      | literal :: rest => (readModifiers rest).map (.default (readLiteral literal) :: ·)
    else none

/-- Reads a column from its words: a name, the words of a type up to the first modifier, and the modifiers. -/
def readWords (changed : Bool) : Words → Option ColumnReading
  | [.quoted '\x60' name] :: rest =>
    (readModifiers (rest.dropWhile fun word => !isKeyword word)).map fun modifiers =>
      { name, type := spell ([Lexeme.bare ' '].intercalate (rest.takeWhile fun word => !isKeyword word)),
        modifiers, changed }
  | _ => none

/-- What stands behind a beginning. -/
def after? (start lexemes : List Lexeme) : Option (List Lexeme) :=
  if start <+: lexemes then some (lexemes.drop start.length) else none

/-- What stands before an ending. -/
def before? (ending lexemes : List Lexeme) : Option (List Lexeme) :=
  if ending <:+ lexemes then some (lexemes.take (lexemes.length - ending.length)) else none

def addWords : List Lexeme := bares "ADD COLUMN ".toList
def modifyWords : List Lexeme := bares "MODIFY COLUMN ".toList

/-- Reads a part of a statement. In one that creates a table every part is a column. -/
def readPart (isCreate : Bool) (part : List Lexeme) : Option PartReading :=
  let column (changed : Bool) (declaration : List Lexeme) :=
    (readWords changed (declaration.splitOn (Lexeme.bare ' '))).map PartReading.column
  if isCreate then column false part
  else match after? addWords part with
    | some declaration => column false declaration
    | none =>
      match after? modifyWords part with
      | some declaration => column true declaration
      | none => some (.command (spell part))

/-- The parts between commas; all but the first have a blank in front. -/
def parts (body : List Lexeme) : Words :=
  match body.splitOn (Lexeme.bare ',') with
  | [] => []
  | first :: rest => first :: rest.map List.tail

/-- What a statement begins with, what stands behind the name of the table, and what it ends with. -/
def opening (isCreate : Bool) : List Lexeme :=
  bares (if isCreate then "CREATE TABLE IF NOT EXISTS " else "ALTER TABLE ").toList

def gap (isCreate : Bool) : List Lexeme := bares (if isCreate then " (" else " ").toList

def ending (isCreate : Bool) (dialect : Dialect) : List Lexeme :=
  bares (if isCreate then ")" ++ Blueprint.closing dialect ++ ";" else ";").toList

/-- Reads a statement about a table. -/
def readStatement (dialect : Dialect) (isCreate : Bool) (sql : String) : Option StatementReading :=
  match (lex sql.toList).bind (after? (opening isCreate)) with
  | some (.quoted '\x60' table :: rest) =>
    (((after? (gap isCreate) rest).bind (before? (ending isCreate dialect))).bind fun body =>
      (parts body).mapM (readPart isCreate)).map fun parts => { table, parts }
  | _ => none

section Writing

/-- The lexemes that a literal is read from. -/
def LiteralReading.lexemes : LiteralReading → List Lexeme
  | .word chars => bares chars
  | .text chars => [.quoted '\x27' chars]

/-- The words that a modifier is read from. -/
def ModifierReading.words : ModifierReading → Words
  | .null => [nullWord]
  | .unique => [uniqueWord]
  | .default literal => [defaultWord, literal.lexemes]

/-- The words of a type. -/
def typeWords (type : List Char) : Words := (type.splitOn ' ').map bares

/-- The words that a column is read from. -/
def ColumnReading.words (c : ColumnReading) : Words :=
  [.quoted '\x60' c.name] :: (typeWords c.type ++ c.modifiers.flatMap ModifierReading.words)

/-- What stands before a column. -/
def ColumnReading.lead (isCreate : Bool) (c : ColumnReading) : List Lexeme :=
  if isCreate then [] else if c.changed then modifyWords else addWords

/-- The lexemes that a column is read from. -/
def ColumnReading.lexemes (isCreate : Bool) (c : ColumnReading) : List Lexeme :=
  c.lead isCreate ++ [Lexeme.bare ' '].intercalate c.words

/-- A word that stands in a row of words: nothing outside of quotes divides it. -/
structure IsWord (word : List Lexeme) : Prop where
  spaced : Spaced word
  whole : Lexeme.bare ' ' ∉ word
  single : Lexeme.bare ',' ∉ word

/-- Holds of literals that are one word. -/
def LiteralReading.Sound : LiteralReading → Prop
  | .word chars => Solid chars
  | .text _ => True

/-- Holds of modifiers that can be read back. -/
def ModifierReading.Sound : ModifierReading → Prop
  | .default literal => literal.Sound
  | _ => True

/-- Holds of columns that can be read back: no word of the type begins a modifier, and only a column of an existing
table is changed. -/
structure ColumnReading.Sound (isCreate : Bool) (c : ColumnReading) : Prop where
  type : ∀ word ∈ c.type.splitOn ' ', Solid word ∧ isKeyword (bares word) = false
  modifiers : ∀ modifier ∈ c.modifiers, modifier.Sound
  changed : isCreate = true → c.changed = false

theorem isWord_bares {chars : List Char} (solid : Solid chars) : IsWord (bares chars) := by
  have plain (c : Char) (member : c ∈ chars) : isQuote c = false ∧ c ≠ ' ' ∧ c ≠ ',' := by
    have holds := solid c member
    simpa [isSolid, and_assoc] using holds
  refine ⟨spaced_bares fun c member => (plain c member).1, ?_, ?_⟩
  · intro member
    obtain ⟨c, inside, same⟩ := List.mem_map.mp member
    cases same
    exact (plain _ inside).2.1 rfl
  · intro member
    obtain ⟨c, inside, same⟩ := List.mem_map.mp member
    cases same
    exact (plain _ inside).2.2 rfl

theorem isWord_quoted {quote : Char} (quotes : isQuote quote = true) (content : List Char) :
    IsWord [.quoted quote content] :=
  ⟨⟨quotes, trivial, trivial⟩, by simp, by simp⟩

theorem LiteralReading.isWord {literal : LiteralReading} (sound : literal.Sound) : IsWord literal.lexemes := by
  cases literal with
  | word chars => exact isWord_bares sound
  | text chars => exact isWord_quoted rfl chars

theorem ModifierReading.isWord {modifier : ModifierReading} (sound : modifier.Sound) :
    ∀ word ∈ modifier.words, IsWord word := by
  have null : IsWord nullWord := isWord_bares (by decide)
  have unique : IsWord uniqueWord := isWord_bares (by decide)
  have default : IsWord defaultWord := isWord_bares (by decide)
  cases modifier with
  | null => simpa [ModifierReading.words] using null
  | unique => simpa [ModifierReading.words] using unique
  | default literal => simpa [ModifierReading.words] using And.intro default (LiteralReading.isWord sound)

theorem ColumnReading.isWord {isCreate : Bool} {c : ColumnReading} (sound : c.Sound isCreate) :
    ∀ word ∈ c.words, IsWord word := by
  intro word member
  rcases List.mem_cons.mp member with rfl | rest
  · exact isWord_quoted rfl c.name
  · rcases List.mem_append.mp rest with typed | modified
    · obtain ⟨chars, inside, rfl⟩ := List.mem_map.mp typed
      exact isWord_bares (sound.type chars inside).1
    · obtain ⟨modifier, inside, part⟩ := List.mem_flatMap.mp modified
      exact ModifierReading.isWord (sound.modifiers modifier inside) word part

/-- A literal is read back. -/
theorem readLiteral_lexemes (literal : LiteralReading) : readLiteral literal.lexemes = literal := by
  cases literal with
  | text chars => rfl
  | word chars =>
    have spelled : LiteralReading.word (spell (bares chars)) = .word chars := by rw [spell_bares]
    cases chars with
    | nil => rfl
    | cons c rest => exact spelled

/-- Modifiers are read back. -/
theorem readModifiers_words (modifiers : List ModifierReading) :
    readModifiers (modifiers.flatMap ModifierReading.words) = some modifiers := by
  induction modifiers with
  | nil => rfl
  | cons modifier rest ih =>
    have unique : uniqueWord ≠ nullWord := by decide
    have null : defaultWord ≠ nullWord := by decide
    have other : defaultWord ≠ uniqueWord := by decide
    rw [List.flatMap_cons]
    cases modifier with
    | null =>
      change readModifiers (nullWord :: rest.flatMap ModifierReading.words) = _
      unfold readModifiers
      rw [if_pos rfl, ih]
      rfl
    | unique =>
      change readModifiers (uniqueWord :: rest.flatMap ModifierReading.words) = _
      unfold readModifiers
      rw [if_neg unique, if_pos rfl, ih]
      rfl
    | default literal =>
      change readModifiers (defaultWord :: literal.lexemes :: rest.flatMap ModifierReading.words) = _
      unfold readModifiers
      rw [if_neg null, if_neg other, if_pos rfl]
      dsimp only
      rw [ih, readLiteral_lexemes]
      rfl

/-- A row of modifiers begins with a keyword. -/
theorem keyword_modifiers (modifiers : List ModifierReading) :
    (modifiers.flatMap ModifierReading.words).takeWhile (fun word => !isKeyword word) = [] ∧
      (modifiers.flatMap ModifierReading.words).dropWhile (fun word => !isKeyword word) =
        modifiers.flatMap ModifierReading.words := by
  cases modifiers with
  | nil => exact ⟨rfl, rfl⟩
  | cons modifier rest => cases modifier <;> simp [ModifierReading.words, isKeyword]

theorem readWords_cons (changed : Bool) (name : List Char) (rest : Words) :
    readWords changed ([.quoted '\x60' name] :: rest) =
      (readModifiers (rest.dropWhile fun word => !isKeyword word)).map fun modifiers =>
        { name, type := spell ([Lexeme.bare ' '].intercalate (rest.takeWhile fun word => !isKeyword word)),
          modifiers, changed } := rfl

theorem typeWords_spelled (type : List Char) : (typeWords type).map spell = type.splitOn ' ' := by
  simp [typeWords, Function.comp_def, spell_bares]

/-- A declaration is read back from its words. -/
theorem readWords_words {isCreate : Bool} {c : ColumnReading} (sound : c.Sound isCreate) :
    readWords c.changed c.words = some c := by
  have plain : ∀ word ∈ typeWords c.type, (!isKeyword word) = true := by
    intro word member
    obtain ⟨chars, inside, rfl⟩ := List.mem_map.mp member
    simp [(sound.type chars inside).2]
  have type : spell ([Lexeme.bare ' '].intercalate (typeWords c.type)) = c.type := by
    rw [spell_intercalate, typeWords_spelled]
    exact List.intercalate_splitOn ' '
  obtain ⟨taken, dropped⟩ := keyword_modifiers c.modifiers
  rw [ColumnReading.words, readWords_cons, List.takeWhile_append_of_pos plain, List.dropWhile_append_of_pos plain,
    taken, dropped, readModifiers_words, List.append_nil, type]
  rfl

end Writing

end DataLayer.Schema
