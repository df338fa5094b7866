import Mathlib.Data.List.Forall2
import DataLayer.Proofs.Value
import DataLayer.Proofs.Schema.Build

/-! One table in two dialects. Main statement: the statement of an embedded database is that of a server with another
spelling of the counting columns and without the options of the table. -/

namespace DataLayer

open DataLayer.Schema

/-- Holds of the member of the closed set of types that counts, but not of its word. -/
def Value.isCounter : Value → Bool
  | .columnType .increments => true
  | _ => false

theorem Value.eq_of_isCounter {type : Value} (counts : type.isCounter = true) : type = .columnType .increments := by
  unfold isCounter at counts
  split at counts
  · rfl
  · cases counts

namespace Dialect

/-- The spelling of a counting key that only an embedded database takes. -/
def embeddedKey : String := "INTEGER PRIMARY KEY AUTOINCREMENT"

/-- What an embedded database makes of the spelling of a type for a server. -/
def embeddedType (type : Value) (text : String) : String := if type.isCounter then embeddedKey else text

theorem columnType_embedded (type length : Value) :
    columnType .sqlite type length = (columnType .mysql type length).map (embeddedType type) := by
  have other (plain : type.isCounter = false) :
      columnType .sqlite type length = (columnType .mysql type length).map (embeddedType type) := by
    have kept : embeddedType type = id := funext fun text => by simp [embeddedType, plain]
    have same : columnType .sqlite type length = columnType .mysql type length := by
      unfold columnType
      split
      · cases plain
      · rfl
    rw [kept, same]
    cases columnType .mysql type length <;> rfl
  cases type with
  | columnType member =>
    cases member with
    | increments => rfl
    | _ => exact other rfl
  | _ => exact other rfl

end Dialect

namespace Schema

/-- A column as it stands in a statement, with its type spelled in a given way. -/
def Column.spelled (c : Column) (type : String) : String :=
  c.lead ++ " ".intercalate (Dialect.quotedName c.name.word :: type :: c.modifiers)

/-- A row of spellings of the types of columns. -/
def TypesIn (dialect : Dialect) : List Column → List String → Prop :=
  List.Forall₂ fun c type => dialect.columnType c.type c.length = .ok type

theorem Column.render_eq_ok {dialect : Dialect} {c : Column} {text : String} :
    c.render dialect = .ok text ↔
      c.name.text?.isSome ∧ ∃ type, dialect.columnType c.type c.length = .ok type ∧ c.spelled type = text := by
  unfold render definition
  cases named : c.name.text?.isSome with
  | false =>
    obtain ⟨misuse, refused⟩ := Dialect.quoteIdentifier_other named
    rw [refused]
    constructor
    · rintro ⟨⟩
    · rintro ⟨⟨⟩, -⟩
  | true =>
    rw [Dialect.quoteIdentifier_text named]
    cases dialect.columnType c.type c.length with
    | error misuse =>
      constructor
      · rintro ⟨⟩
      · rintro ⟨-, type, ⟨⟩, -⟩
    | ok type =>
      change Except.ok (c.spelled type) = Except.ok text ↔ _
      simp

namespace Blueprint

/-- The same table in another dialect. -/
def on (b : Blueprint) (dialect : Dialect) : Blueprint := { b with dialect }

/-- The statement of a table whose types are spelled in a given way, with what stands behind its columns. -/
def spelled (b : Blueprint) (types : List String) (options : String) : String :=
  (if b.isCreate then "CREATE TABLE IF NOT EXISTS " else "ALTER TABLE ") ++ Dialect.quotedName b.table.word ++
    (if b.isCreate then " (" else " ") ++ ", ".intercalate (b.partsOf (List.zipWith Column.spelled b.columns types)) ++
    (if b.isCreate then ")" ++ options ++ ";" else ";")

/-- Holds of tables that can be built where the types of their columns can be spelled. -/
structure Spellable (b : Blueprint) : Prop where
  table : b.table.text?.isSome
  names : ∀ c ∈ b.columns, c.name.text?.isSome
  content : b.columns ≠ [] ∨ b.isCreate = false ∧ b.commands ≠ []

theorem rendered_iff {dialect : Dialect} {columns : List Column} {texts : List String} :
    List.Forall₂ (fun c text => c.render dialect = .ok text) columns texts ↔
      (∀ c ∈ columns, c.name.text?.isSome) ∧
        ∃ types, TypesIn dialect columns types ∧ List.zipWith Column.spelled columns types = texts := by
  constructor
  · intro rendered
    induction rendered with
    | nil => exact ⟨nofun, [], .nil, rfl⟩
    | cons one _ ih =>
      obtain ⟨named, type, typed, rfl⟩ := Column.render_eq_ok.mp one
      obtain ⟨names, types, more, rfl⟩ := ih
      exact ⟨List.forall_mem_cons.mpr ⟨named, names⟩, type :: types, .cons typed more, rfl⟩
  · rintro ⟨names, types, typed, rfl⟩
    induction typed with
    | nil => exact .nil
    | cons one _ ih =>
      obtain ⟨named, names⟩ := List.forall_mem_cons.mp names
      exact .cons (Column.render_eq_ok.mpr ⟨named, _, one, rfl⟩) (ih names)

theorem renderedColumns_eq_ok {b : Blueprint} {texts : List String} :
    b.renderedColumns = .ok texts ↔ (∀ c ∈ b.columns, c.name.text?.isSome) ∧
      ∃ types, TypesIn b.dialect b.columns types ∧ List.zipWith Column.spelled b.columns types = texts :=
  mapM_eq_ok.trans rendered_iff

/-- A table is built exactly when its names are texts, the types of its columns can be spelled and there is something
to say about it. -/
theorem build_eq_some {b : Blueprint} {sql : String} :
    b.build = .ok (some sql) ↔ b.Spellable ∧
      ∃ types, TypesIn b.dialect b.columns types ∧ b.spelled types (closing b.dialect) = sql := by
  constructor
  · intro built
    obtain ⟨texts, table, rendered, named, content, same⟩ : ∃ texts table, b.renderedColumns = .ok texts ∧
        Dialect.quoteIdentifier b.table = .ok table ∧
        (b.columns ≠ [] ∨ b.isCreate = false ∧ texts ++ b.commands ≠ []) ∧
        statementText b.dialect b.isCreate table (b.partsOf texts) = sql := by
      unfold build at built
      cases mode : b.isCreate with
      | true =>
        rw [mode, if_pos rfl] at built
        cases created : b.createStatement with
        | error fault =>
          rw [created] at built
          cases built
        | ok text =>
          rw [created] at built
          cases built
          obtain ⟨texts, table, rendered, named, some, rfl⟩ := createStatement_eq_ok created
          exact ⟨texts, table, rendered, named, .inl some, by simp [statementText, partsOf, mode, String.append_assoc]⟩
      | false =>
        rw [mode, if_neg Bool.false_ne_true] at built
        obtain ⟨texts, table, rendered, named, some, rfl⟩ := alterStatement_eq_ok built
        exact ⟨texts, table, rendered, named, .inr ⟨rfl, some⟩, by simp [statementText, partsOf, mode]⟩
    obtain ⟨names, types, typed, rfl⟩ := renderedColumns_eq_ok.mp rendered
    obtain ⟨known, rfl⟩ := Dialect.quoteIdentifier_eq_ok.mp named
    refine ⟨⟨known, names, ?_⟩, types, typed, same⟩
    rcases content with columns | ⟨alters, some⟩
    · exact .inl columns
    · by_cases none : b.columns = []
      · exact .inr ⟨alters, by simpa [none] using some⟩
      · exact .inl none
  · rintro ⟨spellable, types, typed, rfl⟩
    have rendered := renderedColumns_eq_ok.mpr ⟨spellable.names, types, typed, rfl⟩
    have count : (List.zipWith Column.spelled b.columns types).length = b.columns.length := by
      simp [typed.length_eq]
    have some : b.partsOf (List.zipWith Column.spelled b.columns types) ≠ [] := by
      intro silent
      obtain ⟨none, commands⟩ := List.append_eq_nil_iff.mp silent
      rcases spellable.content with columns | ⟨alters, said⟩
      · exact columns (List.length_eq_zero_iff.mp (by rw [← count, none]; rfl))
      · simp [alters, said] at commands
    exact build_ok rendered (Dialect.quoteIdentifier_text spellable.table) some count

/-- Only an alteration without any content is built into nothing. -/
theorem build_eq_none {b : Blueprint} :
    b.build = .ok none ↔ b.isCreate = false ∧ b.columns = [] ∧ b.commands = [] := by
  unfold build
  cases mode : b.isCreate with
  | true =>
    rw [if_pos rfl]
    cases b.createStatement <;> simp [Except.map]
  | false =>
    rw [if_neg Bool.false_ne_true]
    unfold alterStatement
    constructor
    · intro built
      cases rendered : b.renderedColumns with
      | error misuse =>
        rw [fragments_eq, rendered] at built
        cases built
      | ok texts =>
        rw [fragments_ok rendered] at built
        cases said : texts ++ b.commands with
        | nil =>
          obtain ⟨rfl, silent⟩ := List.append_eq_nil_iff.mp said
          exact ⟨rfl, List.forall₂_nil_right_iff.mp (mapM_eq_ok.mp rendered), silent⟩
        | cons fragment rest =>
          rw [said] at built
          cases named : Dialect.quoteIdentifier b.table <;> rw [named] at built <;> cases built
    · rintro ⟨-, none, silent⟩
      have rendered : b.renderedColumns = .ok [] := by
        rw [renderedColumns, none]
        rfl
      rw [fragments_ok rendered, silent]
      rfl

/-- Two tables that are built into the same statement, but that the types of some columns are spelled as the counting
keys of an embedded database where the first has what a server takes, and that the options of the table are left out. -/
def Respelled (counts : Value → Bool) (b other : Blueprint) : Prop :=
  ∃ types, TypesIn .mysql b.columns types ∧
    b.build = .ok (some (b.spelled types " ENGINE=InnoDB DEFAULT CHARSET=utf8mb4")) ∧
    other.build = .ok (some (b.spelled (List.zipWith (fun c type => if counts c.type then Dialect.embeddedKey else type)
      b.columns types) ""))

/-- It is only about the columns that there are. -/
theorem Respelled.congr {counts others : Value → Bool} {b other : Blueprint} (respelled : Respelled counts b other)
    (same : ∀ c ∈ b.columns, counts c.type = others c.type) : Respelled others b other := by
  obtain ⟨types, typed, built, again⟩ := respelled
  have flags : b.columns.map (fun c => counts c.type) = b.columns.map (fun c => others c.type) :=
    List.map_congr_left same
  have texts (counts : Value → Bool) :
      List.zipWith (fun c type => if counts c.type then Dialect.embeddedKey else type) b.columns types =
        List.zipWith (fun flag type => if flag then Dialect.embeddedKey else type)
          (b.columns.map fun c => counts c.type) types := by rw [List.zipWith_map_left]
  refine ⟨types, typed, built, ?_⟩
  rw [texts, ← flags, ← texts]
  exact again

/-- Where only the member itself stands for a counting column, and not its word, equality decides as well. -/
theorem Respelled.of_members {b other : Blueprint} (respelled : Respelled Value.isCounter b other)
    (members : ∀ c ∈ b.columns, c.type == .columnType .increments → c.type = .columnType .increments) :
    Respelled (· == .columnType .increments) b other := by
  refine respelled.congr fun c among => ?_
  rw [Bool.eq_iff_iff]
  constructor
  · intro counts
    rw [Value.eq_of_isCounter counts, Value.columnType_beq_columnType, beq_self_eq_true]
  · intro equal
    rw [members c among equal]
    rfl

theorem columnType_server {type length : Value} {text : String}
    (spelled : Dialect.columnType .sqlite type length = .ok text) :
    ∃ other, Dialect.columnType .mysql type length = .ok other := by
  rw [Dialect.columnType_embedded] at spelled
  cases known : Dialect.columnType .mysql type length with
  | error misuse =>
    rw [known] at spelled
    cases spelled
  | ok other => exact ⟨other, rfl⟩

theorem typesIn_server {columns : List Column} {types : List String} (typed : TypesIn .sqlite columns types) :
    ∃ others, TypesIn .mysql columns others := by
  induction typed with
  | nil => exact ⟨[], .nil⟩
  | cons one _ ih =>
    obtain ⟨other, known⟩ := columnType_server one
    obtain ⟨others, more⟩ := ih
    exact ⟨other :: others, .cons known more⟩

theorem typesIn_embedded {columns : List Column} {types : List String} (typed : TypesIn .mysql columns types) :
    TypesIn .sqlite columns (List.zipWith (fun c type => Dialect.embeddedType c.type type) columns types) := by
  induction typed with
  | nil => exact .nil
  | cons one _ ih => exact .cons (by rw [Dialect.columnType_embedded, one]; rfl) ih

/-- Every statement for a server is respelled for an embedded database. -/
theorem build_respelled {b : Blueprint} (server : b.dialect = .mysql) {sql : String}
    (built : b.build = .ok (some sql)) : Respelled Value.isCounter b (b.on .sqlite) := by
  obtain ⟨spellable, types, typed, rfl⟩ := build_eq_some.mp built
  rw [server] at typed built
  have same : (b.on .sqlite).Spellable := ⟨spellable.table, spellable.names, spellable.content⟩
  exact ⟨types, typed, built, build_eq_some.mpr ⟨same, _, typesIn_embedded typed, rfl⟩⟩

/-- What can be built for one of them can be built for the other. -/
theorem build_both {b : Blueprint} (server : b.dialect = .mysql) :
    (∃ sql, b.build = .ok (some sql)) ↔ ∃ sql, (b.on .sqlite).build = .ok (some sql) := by
  constructor
  · rintro ⟨sql, built⟩
    obtain ⟨types, -, -, same⟩ := build_respelled server built
    exact ⟨_, same⟩
  · rintro ⟨sql, built⟩
    obtain ⟨⟨table, names, content⟩, types, typed, -⟩ := build_eq_some.mp built
    obtain ⟨others, known⟩ := typesIn_server typed
    rw [← server] at known
    exact ⟨_, build_eq_some.mpr ⟨⟨table, names, content⟩, others, known, rfl⟩⟩

end Blueprint
end Schema
end DataLayer
