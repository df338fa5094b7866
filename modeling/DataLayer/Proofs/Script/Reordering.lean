import DataLayer.Proofs.Schema.Build
import DataLayer.Proofs.Script.Description

/-! What steps on a blueprint come to, whatever they are and whether they fail or not. Main statement: the columns and
the commands are those of the remarks in their order, a step that fails leaves nothing behind, and it makes no
difference in what order different columns are spoken about. -/

namespace DataLayer.Script

open DataLayer.Schema

variable {start d e : Draft} {remarks : Remarks} {step first second : BlueprintStep}

namespace BlueprintStep

open BlueprintRequest (Outcome)

theorem performColumn_error {position : Nat} {ask : Column → Except Misuse ColumnStep} {fault : Fault}
    (failed : (performColumn d position ask).1 = .error fault) : (performColumn d position ask).2 = d := by
  unfold performColumn at failed ⊢
  cases found : d.blueprint.columns[position]? with
  | none => rfl
  | some column =>
    rw [found] at failed
    dsimp only at failed ⊢
    cases asked : ask column with
    | error misuse => rfl
    | ok step =>
      rw [asked] at failed
      cases step with
      | modify modifier => cases failed
      | modifiers => exact set_found found
      | changed => exact set_found found
      | summary => exact set_found found
      | render dialect => exact set_found found

/-- A step that fails leaves the blueprint as it was. -/
theorem perform_error {fault : Fault} (single : step.after = []) (failed : (perform d step).1 = .error fault) :
    (perform d step).2 = d := by
  unfold perform at failed ⊢
  rw [single] at failed ⊢
  change (performFirst d step).1 = _ at failed
  change (performFirst d step).2 = d
  unfold performFirst at failed ⊢
  dsimp only at failed ⊢
  split
  · rfl
  · next quiet =>
    rw [if_neg quiet] at failed
    cases placed : step.column with
    | none =>
      rw [placed] at failed
      dsimp only at failed ⊢
      cases looked : d.look? step.call.name with
      | some handle => rfl
      | none =>
        rw [looked] at failed
        unfold performCall at failed ⊢
        cases asked : BlueprintRequest.ofCall d step.call with
        | error misuse => rfl
        | ok request =>
          rw [asked] at failed
          exact BlueprintRequest.perform_error failed
    | some index =>
      rw [placed] at failed
      dsimp only at failed ⊢
      cases found : position? d.blueprint.columns.length index with
      | none => rfl
      | some position =>
        rw [found] at failed
        exact performColumn_error failed

/-- What a call asks for by its name does not depend on what was said before. -/
theorem ofCall_ok {call : Call} {request : BlueprintRequest} (asked : BlueprintRequest.ofCall d call = .ok request)
    (e : Draft) : BlueprintRequest.ofCall e call = .ok request := by
  unfold BlueprintRequest.ofCall at asked ⊢
  cases known : BlueprintRequest.known? call with
  | some made => rwa [known] at asked
  | none =>
    rw [known] at asked
    dsimp only at asked
    split at asked <;> cases asked

theorem look?_isNone (d e : Draft) (name : String) : (d.look? name).isNone = (e.look? name).isNone := by
  unfold Draft.look? Draft.held?
  split
  · rfl
  · rfl
  · split <;> rfl

theorem remarksAt_position {position place : Nat} {ask : Column → Except Misuse ColumnStep} {modifier : Modifier}
    (said : remarksAt d place ask = [.modifier position modifier]) : place = position := by
  unfold remarksAt at said
  split at said
  · cases said
  · split at said
    · cases said
    · next step asked =>
      cases step with
      | modify other => cases said; rfl
      | _ => cases said

/-- Whose column a step is on depends on the number of columns only, and what it says there on that column. -/
theorem remarksFirst_stable {position : Nat} {modifier : Modifier}
    (said : remarksFirst d step = [.modifier position modifier])
    (count : e.blueprint.columns.length = d.blueprint.columns.length)
    (same : e.blueprint.columns[position]? = d.blueprint.columns[position]?) :
    remarksFirst e step = [.modifier position modifier] := by
  unfold remarksFirst at said ⊢
  split at said
  · cases said
  · next quiet =>
    rw [if_neg quiet]
    cases placed : step.column with
    | none =>
      rw [placed] at said
      dsimp only at said ⊢
      cases looked : d.look? step.call.name with
      | some handle =>
        rw [looked] at said
        cases said
      | none =>
        have blind : e.look? step.call.name = none := by
          rw [← Option.isNone_iff_eq_none, look?_isNone e d, looked]
          rfl
        rw [looked] at said
        rw [blind]
        unfold remarksOn at said ⊢
        dsimp only at said ⊢
        cases asked : BlueprintRequest.ofCall d step.call with
        | error misuse =>
          rw [asked] at said
          cases said
        | ok request =>
          rw [asked] at said
          rw [ofCall_ok asked e, count]
          exact said
    | some index =>
      rw [placed] at said
      dsimp only at said ⊢
      rw [count]
      cases found : position? d.blueprint.columns.length index with
      | none =>
        rw [found] at said
        cases said
      | some place =>
        rw [found] at said
        dsimp only at said ⊢
        have here := remarksAt_position said
        subst here
        unfold remarksAt at said ⊢
        rw [same]
        exact said

/-- What a step says about one column is the same after a remark on another. -/
theorem remarksOf_later (recorded : Recorded start remarks d) {position other : Nat} (apart : position ≠ other)
    {modifier said : Modifier} (later : Recorded start (remarks ++ [.modifier position modifier]) e)
    (single : step.after = []) (before : remarksOf d step = [.modifier other said]) :
    remarksOf e step = [.modifier other said] := by
  have first (d : Draft) : remarksOf d step = remarksFirst d step := by
    rw [remarksOf, single]
    exact List.append_nil _
  rw [first] at before ⊢
  refine remarksFirst_stable before ?_ ?_
  · rw [later.length, recorded.length, Remarks.declarations_modifier]
  · rw [later.draft, recorded.draft]
    simp only [draftOf, Remarks.blueprint_modifier, Blueprint.modifyAt, List.getElem?_modify]
    simp [apart]

/-- Two steps that speak about different columns can be taken in either order. -/
theorem perform_swap (recorded : Recorded start remarks d) {position other : Nat} (apart : position ≠ other)
    {modifier said : Modifier} (single : first.after = []) (lone : second.after = [])
    (one : remarksOf d first = [.modifier position modifier]) (two : remarksOf d second = [.modifier other said]) :
    (perform (perform d first).2 second).2 = (perform (perform d second).2 first).2 := by
  have left := perform_recorded recorded first
  have right := perform_recorded recorded second
  rw [one] at left
  rw [two] at right
  have leftThen := perform_recorded left second
  have rightThen := perform_recorded right first
  rw [remarksOf_later recorded apart left lone two] at leftThen
  rw [remarksOf_later recorded apart.symm right single one] at rightThen
  rw [leftThen.draft, rightThen.draft]
  simp only [draftOf, (Remarks.agree_swap remarks apart modifier said).blueprint]

/-- What steps on a blueprint come to. -/
structure Described (start : Draft) (steps : List BlueprintStep) : Prop where
  /-- The table, the way of describing it and the dialect stay as they were. -/
  frame : ∃ columns commands, (performAll start steps).blueprint = { start.blueprint with columns, commands }
  /-- The columns stand in the order of their declaration, each with what was said about it, in order. -/
  columns : (performAll start steps).blueprint.columns =
    (remarksAll start steps).declarations.mapIdx ((remarksAll start steps).columnAt !start.blueprint.isCreate)
  commands : (performAll start steps).blueprint.commands = (remarksAll start steps).commands
  /-- A statement holds every column, with what stands before it, and then every command. -/
  fragments : (performAll start steps).blueprint.fragments =
    ((performAll start steps).blueprint.columns.mapM fun (column : Column) =>
      (column.definition start.blueprint.dialect).map (column.lead ++ ·)).map (· ++ (remarksAll start steps).commands)
  leads : ∀ column ∈ (performAll start steps).blueprint.columns, column.lead =
    if start.blueprint.isCreate then "" else if column.changed then "MODIFY COLUMN " else "ADD COLUMN "
  /-- A step that fails leaves nothing behind. -/
  refused : ∀ step fault, step.after = [] → (perform (performAll start steps) step).1 = .error fault →
    (perform (performAll start steps) step).2 = performAll start steps
  /-- Steps that say the same about the table and about each of its columns build the same. -/
  agreed : ∀ others, Remarks.Agree (remarksAll start others) (remarksAll start steps) →
    (performAll start others).blueprint.build = (performAll start steps).blueprint.build
  /-- Steps on different columns can change places. -/
  swapped : ∀ first second rest position other modifier said, position ≠ other →
    first.after = [] → second.after = [] →
    remarksOf (performAll start steps) first = [.modifier position modifier] →
    remarksOf (performAll start steps) second = [.modifier other said] →
    (performAll start (steps ++ first :: second :: rest)).blueprint.build =
      (performAll start (steps ++ second :: first :: rest)).blueprint.build

theorem performAll_append (d : Draft) (steps rest : List BlueprintStep) :
    performAll d (steps ++ rest) = performAll (performAll d steps) rest := List.foldl_append

/-- A blueprint is what was said about each column of it, in whatever order that was said. -/
theorem performAll_described {table : Value} {isCreate : Bool} {dialect : Dialect} {b : Blueprint}
    (started : Blueprint.start table isCreate dialect = .ok b) (flag : Value) (steps : List BlueprintStep) :
    Described ⟨b, flag⟩ steps := by
  have reached := started_recorded started flag
  obtain rfl := start_eq_ok started
  have recorded := reached steps
  refine ⟨⟨_, _, congrArg Draft.blueprint recorded.draft⟩, ?_, ?_, ?_, ?_, ?_, ?_, ?_⟩
  · rw [recorded.draft]
    rfl
  · rw [recorded.draft]
    rfl
  · rw [recorded.draft]
    exact Blueprint.fragments_eq _
  · rw [recorded.draft]
    intro column member
    obtain ⟨position, inside, rfl⟩ := List.mem_mapIdx.mp member
    cases isCreate <;> simp [Column.lead, Remarks.columnAt]
  · intro step fault single failed
    exact perform_error single failed
  · intro others agree
    rw [(reached others).draft, recorded.draft]
    exact congrArg Blueprint.build (agree.blueprint _ _ _)
  · intro first second rest position other modifier said apart single lone one two
    have same := perform_swap recorded apart single lone one two
    simp only [performAll_append]
    change (performAll (perform (perform _ first).2 second).2 rest).blueprint.build =
      (performAll (perform (perform _ second).2 first).2 rest).blueprint.build
    rw [same]

/-- An alteration with a handle on an earlier column, a name that is blank, and shortcuts for the last column. -/
theorem performAll_described_alter :
    let start : Draft := ⟨{ table := .text "t", isCreate := false, dialect := .mysql }, .bool false⟩
    let steps : List BlueprintStep :=
      [{ call := { name := "nullable" } }, { call := { name := "string", args := [.text "a"] } },
        { call := { name := "nullable" } }, { call := { name := "integer", args := [.text "b"] } },
        { call := { name := "default", args := [.text "x"] }, column := some 0 },
        { call := { name := "text", args := [.text " "] } }, { call := { name := "change" } },
        { call := { name := "drop_column", args := [.text "c"] } }]
    Blueprint.start (.text "t") false .mysql = .ok start.blueprint ∧ Described start steps ∧
      ((remarksAll start steps).modifiersAt 0).filterMap Modifier.text? = ["NULL", "DEFAULT 'x'"] ∧
      (performAll start steps).blueprint.build.toOption = some (some
        "ALTER TABLE `t` ADD COLUMN `a` VARCHAR(255) NULL DEFAULT 'x', MODIFY COLUMN `b` INT, DROP COLUMN `c`;") := by
  intro start steps
  have started : Blueprint.start (.text "t") false .mysql = .ok start.blueprint := by rfl
  exact ⟨started, performAll_described started (.bool false) steps, by decide +kernel, by decide +kernel⟩

end BlueprintStep
end DataLayer.Script
