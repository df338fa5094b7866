import DataLayer.Dialect
import DataLayer.Fault.Misuse
import DataLayer.Value.Name
import DataLayer.Value.Same

/-! Values in the places of texts: which rows of values can be joined to one text, when a value
equals a text, and which texts are blank names. -/

namespace DataLayer.Value

/-- The text that a value is or stands in for; nothing of any other value can be joined. -/
def word (v : Value) : String := v.text?.getD ""

theorem joinTexts_go_eq_ok (position : Nat) {items : List Value} {words : List String} :
    joinTexts.go position items = .ok words ↔
      (∀ item ∈ items, item.text?.isSome) ∧ items.map word = words := by
  induction items generalizing position words with
  | nil => simp [joinTexts.go]
  | cons item rest ih =>
    cases spelled : item.text? with
    | none => simp [joinTexts.go, spelled]
    | some own =>
      cases later : joinTexts.go (position + 1) rest with
      | error misuse =>
        have apart : ¬ ∀ item ∈ rest, item.text?.isSome := fun every => by
          have ended := (ih (position + 1)).mpr ⟨every, rfl⟩
          rw [later] at ended
          cases ended
        simp [joinTexts.go, spelled, later, Except.map, apart]
      | ok others =>
        obtain ⟨every, rfl⟩ := (ih (position + 1)).mp later
        simpa [joinTexts.go, spelled, later, Except.map, word] using fun _ => every

/-- A row of values is joined exactly when each of them is or stands in for a text. -/
theorem joinTexts_eq_ok {separator text : String} {items : List Value} :
    joinTexts separator items = .ok text ↔
      (∀ item ∈ items, item.text?.isSome) ∧ separator.intercalate (items.map word) = text := by
  unfold joinTexts
  cases spelled : joinTexts.go 0 items with
  | error misuse =>
    have apart : ¬ ∀ item ∈ items, item.text?.isSome := fun every => by
      rw [(joinTexts_go_eq_ok 0).mpr ⟨every, rfl⟩] at spelled
      cases spelled
    simp only [Except.map, apart, false_and, reduceCtorEq]
  | ok words =>
    obtain ⟨every, rfl⟩ := (joinTexts_go_eq_ok 0).mp spelled
    simpa only [Except.map, Except.ok.injEq, iff_and_self] using fun _ => every

/-- Texts are equal as values exactly when they are equal. -/
@[simp] theorem text_beq_text (first second : String) : (Value.text first == Value.text second) = (first == second) := by
  change same _ _ = _
  simp only [same, sameScalar, number?, text?]

/-- A member of the closed set of types equals the members and the texts with its word. -/
@[simp] theorem columnType_beq_columnType (first second : ColumnType) :
    (Value.columnType first == Value.columnType second) = (first.word == second.word) := by
  change same _ _ = _
  simp only [same, sameScalar, number?, text?]

@[simp] theorem text_beq_columnType (first : String) (second : ColumnType) :
    (Value.text first == Value.columnType second) = (first == second.word) := by
  change same _ _ = _
  simp only [same, sameScalar, number?, text?]

theorem isBlankName_text (name : String) : (Value.text name).isBlankName = .ok (Text.isBlankText name) := by
  by_cases empty : name = ""
  · subst empty
    rfl
  · simp [isBlankName, isTruthy, text?, empty]

end DataLayer.Value

/-! Names between back quotes: a value has such a name exactly when it is or stands in for a text. -/

namespace DataLayer.Dialect

variable {name : Value} {text : String}

theorem quoteIdentifier_text (named : name.text?.isSome = true) :
    quoteIdentifier name = .ok (quotedName name.word) := by
  obtain ⟨word, spelled⟩ := Option.isSome_iff_exists.mp named
  simp [quoteIdentifier, Value.word, spelled]

theorem quoteIdentifier_other (unnamed : name.text?.isSome = false) :
    ∃ misuse, quoteIdentifier name = .error misuse := by
  unfold quoteIdentifier
  rw [Option.isSome_eq_false_iff, Option.isNone_iff_eq_none] at unnamed
  simp only [unnamed]
  split <;> exact ⟨_, rfl⟩

theorem quoteIdentifier_eq_ok : quoteIdentifier name = .ok text ↔ name.text?.isSome ∧ quotedName name.word = text := by
  cases named : name.text?.isSome with
  | true => simp [quoteIdentifier_text named]
  | false =>
    obtain ⟨misuse, refused⟩ := quoteIdentifier_other named
    simp [refused]

end DataLayer.Dialect
