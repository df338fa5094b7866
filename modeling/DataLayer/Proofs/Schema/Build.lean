import Mathlib.Data.List.Forall2
import DataLayer.Schema.Blueprint

/-! The statements that blueprints compile to, read off their text. -/

namespace DataLayer.Schema

/-- A row is formed exactly when each of its items is. -/
theorem mapM_eq_ok {α β : Type} {items : List α} {form : α → Except Misuse β} {texts : List β} :
    items.mapM form = .ok texts ↔ List.Forall₂ (fun item text => form item = .ok text) items texts := by
  constructor
  · intro formed
    induction items generalizing texts with
    | nil =>
      cases formed
      exact .nil
    | cons item rest ih =>
      rw [List.mapM_cons] at formed
      cases one : form item with
      | error misuse =>
        rw [one] at formed
        cases formed
      | ok text =>
        rw [one] at formed
        cases others : rest.mapM form with
        | error misuse =>
          rw [others] at formed
          cases formed
        | ok more =>
          rw [others] at formed
          cases formed
          exact .cons one (ih others)
  · intro formed
    induction formed with
    | nil => rfl
    | cons one _ ih =>
      rw [List.mapM_cons, one, ih]
      rfl

namespace Blueprint

variable {b : Blueprint} {sql : String}

theorem fragments_eq (b : Blueprint) : b.fragments = b.renderedColumns.map (· ++ b.commands) := by
  unfold fragments
  cases b.renderedColumns <;> rfl

theorem fragments_ok {columns : List String} (rendered : b.renderedColumns = .ok columns) :
    b.fragments = .ok (columns ++ b.commands) := by
  rw [fragments_eq, rendered]
  rfl

/-- What stands behind the columns of a table that is created. -/
def closing (dialect : Dialect) : String :=
  if dialect.tableOptions = "" then "" else " " ++ dialect.tableOptions

theorem createStatement_eq_ok (built : b.createStatement = .ok sql) :
    ∃ columns table, b.renderedColumns = .ok columns ∧ Dialect.quoteIdentifier b.table = .ok table ∧
      b.columns ≠ [] ∧ sql = "CREATE TABLE IF NOT EXISTS " ++ table ++ " (" ++ ", ".intercalate columns ++ ")"
        ++ closing b.dialect ++ ";" := by
  unfold createStatement at built
  split at built
  · cases built
  · next some =>
    cases rendered : b.renderedColumns with
    | error misuse =>
      rw [rendered] at built
      cases built
    | ok columns =>
      rw [rendered] at built
      cases named : Dialect.quoteIdentifier b.table with
      | error misuse =>
        rw [named] at built
        cases built
      | ok table =>
        rw [named] at built
        refine ⟨columns, table, rfl, rfl, by simpa using some, ?_⟩
        exact (Except.ok.inj built).symm

theorem alterStatement_eq_ok (built : b.alterStatement = .ok (some sql)) :
    ∃ columns table, b.renderedColumns = .ok columns ∧ Dialect.quoteIdentifier b.table = .ok table ∧
      columns ++ b.commands ≠ [] ∧
      sql = "ALTER TABLE " ++ table ++ " " ++ ", ".intercalate (columns ++ b.commands) ++ ";" := by
  unfold alterStatement at built
  cases rendered : b.renderedColumns with
  | error misuse =>
    rw [fragments_eq, rendered] at built
    cases built
  | ok columns =>
    rw [fragments_ok rendered] at built
    cases said : columns ++ b.commands with
    | nil =>
      rw [said] at built
      cases built
    | cons fragment rest =>
      rw [said] at built
      cases named : Dialect.quoteIdentifier b.table with
      | error misuse =>
        rw [named] at built
        cases built
      | ok table =>
        rw [named] at built
        refine ⟨columns, table, rfl, rfl, by simp [said], ?_⟩
        rw [said]
        exact (Option.some.inj (Except.ok.inj built)).symm

/-- A statement about a table, put together from its parts. -/
def statementText (dialect : Dialect) (isCreate : Bool) (table : String) (parts : List String) : String :=
  (if isCreate then "CREATE TABLE IF NOT EXISTS " else "ALTER TABLE ") ++ table ++
    (if isCreate then " (" else " ") ++ ", ".intercalate parts ++
    (if isCreate then ")" ++ closing dialect ++ ";" else ";")

/-- The parts of a statement: only one that alters its table holds commands. -/
def partsOf (b : Blueprint) (columns : List String) : List String :=
  columns ++ if b.isCreate then [] else b.commands

/-- A blueprint whose names are texts and that has something to say is built. -/
theorem build_ok {columns : List String} {table : String} (rendered : b.renderedColumns = .ok columns)
    (named : Dialect.quoteIdentifier b.table = .ok table) (some : b.partsOf columns ≠ [])
    (count : columns.length = b.columns.length) :
    b.build = .ok (.some (statementText b.dialect b.isCreate table (b.partsOf columns))) := by
  unfold build statementText
  cases created : b.isCreate with
  | true =>
    have parts : b.partsOf columns = columns := by simp [partsOf, created]
    have filled : b.columns.isEmpty = false := by
      rw [parts] at some
      rwa [← Bool.not_eq_true, List.isEmpty_iff, ← List.length_eq_zero_iff, ← count, List.length_eq_zero_iff]
    simp only [↓reduceIte, parts, createStatement, filled, Bool.false_eq_true, rendered, named]
    exact congrArg (fun text => Except.ok (Option.some text)) (by simp only [closing, String.append_assoc])
  | false =>
    have parts : b.partsOf columns = columns ++ b.commands := by simp [partsOf, created]
    rw [parts] at some ⊢
    unfold alterStatement
    rw [fragments_ok rendered]
    cases said : columns ++ b.commands with
    | nil => exact absurd said some
    | cons fragment rest =>
      rw [named]
      rfl

end Blueprint
end DataLayer.Schema
