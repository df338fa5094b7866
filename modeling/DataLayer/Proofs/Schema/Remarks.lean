import DataLayer.Proofs.Value
import DataLayer.Schema.Blueprint

/-! What is said about a table, one remark after the other, and the blueprint that the remarks amount to: the columns
in the order in which they were declared, each with what was said about it, and the commands. Main statement: each
way of adding to a blueprint is one more remark, or several. -/

namespace DataLayer.Schema

/-- What is declared of a column. -/
structure Declaration where
  name : Value
  type : Value
  length : Value

/-- The words that a modifier adds to a declaration, if it adds any. -/
def Modifier.text? : Modifier → Option String
  | .nullable => some "NULL"
  | .default value => some ("DEFAULT " ++ literal value)
  | .unique => some "UNIQUE"
  | .change => none

/-- Holds of the modifier that marks a column as changed. -/
def Modifier.isChange : Modifier → Bool
  | .change => true
  | _ => false

/-- One thing that is said about a table. Columns are numbered in the order of their declaration. -/
inductive Remark where
  | column (declaration : Declaration)
  | modifier (position : Nat) (modifier : Modifier)
  | dropColumn (name : Value)
  | renameColumn (source target definition : Value)

namespace Remark

/-- The declaration in a remark. -/
def declaration? : Remark → Option Declaration
  | .column declaration => some declaration
  | _ => none

/-- The modifier that a remark adds to the column at a position. -/
def modifierAt? (position : Nat) : Remark → Option Modifier
  | .modifier place said => if place = position then some said else none
  | _ => none

/-- The command in a remark. -/
def command? : Remark → Option String
  | .dropColumn name => some ("DROP COLUMN " ++ Dialect.quotedName name.word)
  | .renameColumn source target definition => some ("CHANGE COLUMN " ++ Dialect.quotedName source.word ++ " "
      ++ Dialect.quotedName target.word ++ " " ++ definition.display)
  | _ => none

end Remark

/-- Everything that is said about a table, in order. -/
abbrev Remarks := List Remark

namespace Remarks

/-- The declarations of the columns. -/
def declarations (remarks : Remarks) : List Declaration := remarks.filterMap Remark.declaration?

/-- What is said about the column at a position after its declaration. -/
def modifiersAt (remarks : Remarks) (position : Nat) : List Modifier :=
  remarks.filterMap (Remark.modifierAt? position)

/-- The commands of the table. -/
def commands (remarks : Remarks) : List String := remarks.filterMap Remark.command?

/-- The column at a position: only one of an existing table is ever marked as changed. -/
def columnAt (remarks : Remarks) (alter : Bool) (position : Nat) (declaration : Declaration) : Column where
  name := declaration.name
  type := declaration.type
  length := declaration.length
  alter := alter
  modifiers := (remarks.modifiersAt position).filterMap Modifier.text?
  changed := alter && (remarks.modifiersAt position).any Modifier.isChange

/-- The blueprint that remarks amount to. -/
def blueprint (remarks : Remarks) (table : Value) (isCreate : Bool) (dialect : Dialect) : Blueprint where
  table := table
  isCreate := isCreate
  dialect := dialect
  columns := remarks.declarations.mapIdx (remarks.columnAt !isCreate)
  commands := remarks.commands

/-- Holds when nothing is said about columns that are not declared. -/
def Grounded (remarks : Remarks) : Prop :=
  ∀ position, remarks.declarations.length ≤ position → remarks.modifiersAt position = []

/-- Holds of remarks that say the same about the table and about each column of it. -/
structure Agree (remarks others : Remarks) : Prop where
  declarations : remarks.declarations = others.declarations
  modifiersAt : ∀ position, remarks.modifiersAt position = others.modifiersAt position
  commands : remarks.commands = others.commands

variable {remarks others : Remarks} {table : Value} {isCreate : Bool} {dialect : Dialect}

/-- In what order different columns were spoken about makes no difference. -/
theorem Agree.blueprint (agree : Agree remarks others) (table : Value) (isCreate : Bool) (dialect : Dialect) :
    remarks.blueprint table isCreate dialect = others.blueprint table isCreate dialect := by
  have same : remarks.columnAt = others.columnAt := by
    funext alter position declaration
    simp only [columnAt, agree.modifiersAt]
  simp only [Remarks.blueprint, agree.declarations, agree.commands, same]

theorem declarations_append (remarks others : Remarks) :
    declarations (remarks ++ others) = remarks.declarations ++ others.declarations := List.filterMap_append

theorem modifiersAt_append (remarks others : Remarks) (position : Nat) :
    modifiersAt (remarks ++ others) position = remarks.modifiersAt position ++ others.modifiersAt position :=
  List.filterMap_append

theorem commands_append (remarks others : Remarks) :
    commands (remarks ++ others) = remarks.commands ++ others.commands := List.filterMap_append

@[simp] theorem declarations_column (remarks : Remarks) (declaration : Declaration) :
    declarations (remarks ++ [.column declaration]) = remarks.declarations ++ [declaration] :=
  declarations_append _ _

@[simp] theorem declarations_modifier (remarks : Remarks) (position : Nat) (modifier : Modifier) :
    declarations (remarks ++ [.modifier position modifier]) = remarks.declarations :=
  (declarations_append _ _).trans (List.append_nil _)

@[simp] theorem commands_modifier (remarks : Remarks) (position : Nat) (modifier : Modifier) :
    commands (remarks ++ [.modifier position modifier]) = remarks.commands :=
  (commands_append _ _).trans (List.append_nil _)

theorem length_columns (remarks : Remarks) (table : Value) (isCreate : Bool) (dialect : Dialect) :
    (remarks.blueprint table isCreate dialect).columns.length = remarks.declarations.length := by
  simp [Remarks.blueprint]

/-- A column is spoken about only once it is there, so a fresh one has no modifiers. -/
theorem blueprint_column (grounded : remarks.Grounded) (declaration : Declaration) :
    Remarks.blueprint (remarks ++ [.column declaration]) table isCreate dialect =
      { remarks.blueprint table isCreate dialect with
        columns := (remarks.blueprint table isCreate dialect).columns ++ [{
          name := declaration.name, type := declaration.type, length := declaration.length, alter := !isCreate }] } := by
  have silent (position : Nat) : modifiersAt [.column declaration] position = [] := rfl
  have same : columnAt (remarks ++ [.column declaration]) = remarks.columnAt := by
    funext alter position declaration
    simp only [columnAt, modifiersAt_append, silent, List.append_nil]
  have fresh := grounded remarks.declarations.length (Nat.le_refl _)
  have none : commands [.column declaration] = [] := rfl
  simp only [Remarks.blueprint, same, declarations_column, commands_append, none, List.append_nil, List.mapIdx_concat]
  simp only [columnAt, fresh, List.filterMap_nil, List.any_nil, Bool.and_false]

theorem Grounded.column (grounded : remarks.Grounded) (declaration : Declaration) :
    Grounded (remarks ++ [.column declaration]) := by
  intro position beyond
  rw [declarations_column, List.length_append] at beyond
  rw [modifiersAt_append, grounded position (by omega)]
  rfl

theorem modifiersAt_modifier (position other : Nat) (modifier : Modifier) :
    modifiersAt [.modifier position modifier] other = if position = other then [modifier] else [] := by
  by_cases same : position = other <;> simp [modifiersAt, Remark.modifierAt?, same]

/-- What is said about a column stands behind everything that was said about it before. -/
theorem columnAt_modifier (alter : Bool) (position : Nat) (declaration : Declaration) (modifier : Modifier) :
    columnAt (remarks ++ [.modifier position modifier]) alter position declaration =
      (remarks.columnAt alter position declaration).modify modifier := by
  simp only [columnAt, modifiersAt_append, modifiersAt_modifier, ↓reduceIte]
  cases modifier with
  | change =>
    have changed : (remarks.modifiersAt position ++ [Modifier.change]).any Modifier.isChange = true := by
      simp [Modifier.isChange]
    rw [changed]
    cases alter <;> simp [Column.modify, Modifier.text?]
  | nullable => simp [Column.modify, Modifier.text?, Modifier.isChange]
  | default value => simp [Column.modify, Modifier.text?, Modifier.isChange]
  | unique => simp [Column.modify, Modifier.text?, Modifier.isChange]

theorem blueprint_modifier (position : Nat) (modifier : Modifier) :
    Remarks.blueprint (remarks ++ [.modifier position modifier]) table isCreate dialect =
      (remarks.blueprint table isCreate dialect).modifyAt position modifier := by
  have columns : remarks.declarations.mapIdx (columnAt (remarks ++ [.modifier position modifier]) !isCreate) =
      (remarks.declarations.mapIdx (remarks.columnAt !isCreate)).modify position
        fun column => column.modify modifier := by
    refine List.ext_getElem? fun other => ?_
    rw [List.getElem?_modify, List.getElem?_mapIdx, List.getElem?_mapIdx, Option.map_eq_map,
      Option.map_map]
    refine congrArg (Option.map · _) ?_
    funext declaration
    by_cases same : position = other
    · subst same
      simp only [columnAt_modifier, Function.comp_apply, ↓reduceIte]
    · simp [columnAt, modifiersAt_append, modifiersAt_modifier, same]
  simp only [Remarks.blueprint, Blueprint.modifyAt, declarations_modifier, commands_modifier, columns]

/-- Modifiers of different columns change places. -/
theorem agree_swap (remarks : Remarks) {position other : Nat} (apart : position ≠ other) (first second : Modifier) :
    Agree (remarks ++ [.modifier position first] ++ [.modifier other second])
      (remarks ++ [.modifier other second] ++ [.modifier position first]) where
  declarations := by simp only [declarations_modifier]
  commands := by simp only [commands_modifier]
  modifiersAt place := by
    have once : position = place → other ≠ place := fun here there => apart (here.trans there.symm)
    simp only [modifiersAt_append, modifiersAt_modifier]
    split
    · next here => simp [once here]
    · simp

theorem Grounded.modifier (grounded : remarks.Grounded) {position : Nat}
    (declared : position < remarks.declarations.length) (modifier : Modifier) :
    Grounded (remarks ++ [.modifier position modifier]) := by
  intro other beyond
  rw [declarations_modifier] at beyond
  have apart : position ≠ other := by omega
  simp [modifiersAt_append, grounded other beyond, modifiersAt_modifier, apart]

/-- A command says nothing about the columns that are declared. -/
theorem command_silent {remark : Remark} {command : String} (said : remark.command? = some command) :
    declarations [remark] = [] ∧ ∀ position, modifiersAt [remark] position = [] := by
  cases remark with
  | column declaration => cases said
  | modifier place modifier => cases said
  | dropColumn name => exact ⟨rfl, fun _ => rfl⟩
  | renameColumn source target definition => exact ⟨rfl, fun _ => rfl⟩

theorem blueprint_command {remark : Remark} {command : String} (said : remark.command? = some command) :
    Remarks.blueprint (remarks ++ [remark]) table isCreate dialect =
      { remarks.blueprint table isCreate dialect with
        commands := (remarks.blueprint table isCreate dialect).commands ++ [command] } := by
  obtain ⟨undeclared, silent⟩ := command_silent said
  have one : commands [remark] = [command] := by simp [commands, said]
  have same : columnAt (remarks ++ [remark]) = remarks.columnAt := by
    funext alter position declaration
    simp only [columnAt, modifiersAt_append, silent, List.append_nil]
  simp only [Remarks.blueprint, same, declarations_append, commands_append, one, undeclared, List.append_nil]

theorem Grounded.command (grounded : remarks.Grounded) {remark : Remark} {command : String}
    (said : remark.command? = some command) : Grounded (remarks ++ [remark]) := by
  obtain ⟨undeclared, silent⟩ := command_silent said
  intro position beyond
  rw [declarations_append, undeclared, List.append_nil] at beyond
  rw [modifiersAt_append, silent, grounded position beyond, List.append_nil]

end Remarks
end DataLayer.Schema
