import DataLayer.Proofs.Value
import DataLayer.Proofs.Migration.TableName
import DataLayer.Proofs.Schema.Build
import DataLayer.Proofs.Source.Loading

/-! What a new migration does as it stands. Its file is loaded as the class that it is named by; main statement:
its one step describes a table that every dialect can create. -/

namespace DataLayer.Source

open DataLayer.Script DataLayer.Schema DataLayer.Text

/-- The steps that describe the table of a new migration. -/
def templateColumns : List BlueprintStep := [
  blueprintCall "id" [],
  blueprintCall "boolean" [.text "active"] [{ name := "default", args := [.int 1] }],
  blueprintCall "timestamps" [],
  blueprintCall "soft_delete" []]

/-- What a new migration does. -/
def templateUp (name : String) : List SchemaStep := [.create (.text (Migration.tableNameFor name)) templateColumns]

/-- What a new migration does when it is taken back. -/
def templateDown (name : String) : List SchemaStep := [dropStep (Migration.tableNameFor name)]

/-- The file of a new migration binds the class that it is named by, unless no class can have that name. -/
theorem bindings_template {name : String} (basic : isBasic name = true) (assignable : name ≠ unassignable) (path : Path) :
    (File.template name).bindings path =
      .ok (onlyNames (moduleName path) name (templateUp name) (templateDown name)) := by
  have plain := normalForm_basic basic
  unfold File.bindings
  dsimp only
  rw [plain, if_neg assignable]
  exact ofModule_onlyNames plain (moduleName path) (templateUp name) (templateDown name)

/-- Whole-number columns that count from zero. -/
def counterColumns (names : List String) : List Column :=
  names.map fun name => { name := .text name, type := .columnType .integer, modifiers := ["DEFAULT 0"] }

/-- The columns of the table of a new migration. -/
def describedColumns : List Column :=
  [{ name := .text "id", type := .columnType .increments },
    { name := .text "active", type := .columnType .boolean, modifiers := ["DEFAULT 1"] }] ++
    counterColumns Blueprint.timestampNames ++ counterColumns Blueprint.softDeleteNames

/-- The description of the table after its first columns. -/
def describedDraft (table : Value) (dialect : Dialect) (count : Nat) : Draft :=
  { blueprint := { table, isCreate := true, dialect, columns := describedColumns.take count }, flag := .bool true }

theorem describe_template (table : Value) (dialect : Dialect) :
    BlueprintStep.describe (.bool true) templateColumns { table, isCreate := true, dialect } =
      .ok { table, isCreate := true, dialect, columns := describedColumns } := by
  obtain ⟨_, key⟩ : ∃ handle, (blueprintCall "id" []).perform (describedDraft table dialect 0) =
      (.ok handle, describedDraft table dialect 1) := ⟨_, rfl⟩
  obtain ⟨_, mark⟩ : ∃ handle,
      (blueprintCall "boolean" [.text "active"] [{ name := "default", args := [.int 1] }]).perform
        (describedDraft table dialect 1) = (.ok handle, describedDraft table dialect 2) := ⟨_, rfl⟩
  obtain ⟨_, changes⟩ : ∃ handle, (blueprintCall "timestamps" []).perform (describedDraft table dialect 2) =
      (.ok handle, describedDraft table dialect 6) := ⟨_, rfl⟩
  obtain ⟨_, deletions⟩ : ∃ handle, (blueprintCall "soft_delete" []).perform (describedDraft table dialect 6) =
      (.ok handle, describedDraft table dialect 8) := ⟨_, rfl⟩
  change (BlueprintStep.describe.go (describedDraft table dialect 0) templateColumns).map Draft.blueprint = _
  simp only [templateColumns, BlueprintStep.describe.go, key, mark, changes, deletions]
  rfl

theorem render_template (table : Value) (dialect : Dialect) :
    ∃ columns, Blueprint.renderedColumns { table, isCreate := true, dialect, columns := describedColumns } =
      .ok columns ∧ columns.length = describedColumns.length ∧ columns ≠ [] := by
  cases dialect with
  | sqlite => exact ⟨_, rfl, rfl, nofun⟩
  | mysql => exact ⟨_, rfl, rfl, nofun⟩

/-- Every dialect can create the table of a new migration under any name that is not blank. -/
theorem compile_template (dialect : Dialect) {table : String} (solid : isBlankText table = false) :
    ∃ sql, Schema.compile dialect (.text table) true (BlueprintStep.describe (.bool true) templateColumns) =
      .ok (some sql) := by
  have begun : Blueprint.start (.text table) true dialect = .ok { table := .text table, isCreate := true, dialect } := by
    unfold Blueprint.start
    rw [Value.isBlankName_text, solid]
    rfl
  obtain ⟨columns, rendered, count, filled⟩ := render_template (.text table) dialect
  have built := Blueprint.build_ok rendered (Dialect.quoteIdentifier_text rfl)
    (by simpa [Blueprint.partsOf] using filled) count
  unfold Schema.compile
  simp only [begun, describe_template, bind, Except.bind]
  exact ⟨_, built⟩

/-- In lower case, too, the letters and digits of the basic script are no blanks. -/
theorem isBlank_toLower : ∀ n : Fin 128, Migration.isPlain (Char.ofNat n) = true →
    isBlank (Char.ofNat n).toLower = false := by
  decide +kernel

/-- The table of a new migration has a name. -/
theorem tableNameFor_solid (name : String) : isBlankText (Migration.tableNameFor name) = false := by
  unfold Migration.tableNameFor
  split
  next table created =>
    obtain ⟨filled, plain, -⟩ := Migration.createdTable?_eq_some.mp created
    cases table with
    | nil => exact absurd rfl filled
    | cons c more =>
      have letter := plain c List.mem_cons_self
      have basic : c.toNat < 128 := Migration.basic_of_isPlain letter
      have solid := isBlank_toLower ⟨c.toNat, basic⟩
      rw [Char.ofNat_toNat] at solid
      simp [isBlankText, Migration.joinedWords, solid letter]
  next => decide

/-- Holds of names that the class of a new migration can have and still be found in its module. -/
def isDefinable (name : String) : Bool := name != unassignable && name != Bindings.ownName

/-- The file of a new migration is loaded as the class that it is named by. -/
theorem instantiate_template {tree : Tree File} {path : Path} {name : String} (basic : isBasic name = true)
    (definable : isDefinable name = true) (found : tree.find? path = some (.file (.template name)))
    (ending : ".py".toList.isSuffixOf path.name.toList = true) :
    Migration.instantiate tree path = .ok (onlyClass (moduleName path) name (templateUp name) (templateDown name)) := by
  obtain ⟨assignable, free⟩ := Bool.and_eq_true_iff.mp definable
  exact instantiate_onlyClass found ending (bindings_template basic (bne_iff_ne.mp assignable) path)
    (bne_iff_ne.mp free)

/-- A class in the place of the name that its module is called by is none of the module's own. -/
theorem candidates_ownName (called : String) (up down : List SchemaStep) :
    (onlyNames called Bindings.ownName up down).candidates .migration = [] := by
  simp [onlyNames, Bindings.candidates, Bindings.initial, Bindings.called, Bindings.ownName, Entries.put, Entries.get?,
    ClassValue.root, ModuleName.same, onlyClass]

/-- A class of any other name is not loaded from its file, and the complaint is reported. -/
theorem instantiate_undefinable {tree : Tree File} {path : Path} {name : String} (undefinable : isDefinable name = false)
    (found : tree.find? path = some (.file (.template name)))
    (ending : ".py".toList.isSuffixOf path.name.toList = true) :
    ∃ report, Migration.instantiate tree path = .error (.report report) := by
  have bound : (∃ message, (File.template name).bindings path = .error (.raised "SyntaxError" message)) ∨
      ∃ up down, (File.template name).bindings path = .ok (onlyNames (moduleName path) Bindings.ownName up down) := by
    unfold File.bindings
    dsimp only
    rcases Bool.and_eq_false_iff.mp undefinable with same | same
    · rw [bne_eq_false_iff_eq.mp same, normalForm_basic (by decide), if_pos rfl]
      exact .inl ⟨_, rfl⟩
    · rw [bne_eq_false_iff_eq.mp same, normalForm_basic (by decide), if_neg (by decide)]
      exact .inr ⟨_, _, ofModule_onlyNames (normalForm_basic (by decide)) _ _ _⟩
  unfold Migration.instantiate loadClass load
  rw [ending, found]
  rcases bound with ⟨message, bound⟩ | ⟨up, down, bound⟩
  · simp only [bound]
    exact ⟨_, rfl⟩
  · simp only [bound, Bool.not_true, Bool.false_eq_true, ↓reduceIte, bind, Except.bind, candidates_ownName]
    exact ⟨_, rfl⟩

end DataLayer.Source
