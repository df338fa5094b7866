import DataLayer.Proofs.Value
import DataLayer.Proofs.Schema.Remarks
import DataLayer.Script.Blueprint

/-! Steps on a blueprint as remarks on its table. Main statement: after any steps, whether they fail or not, the
blueprint is what the remarks of the steps amount to, where a remark on no column in particular is one on the column
that is last at that moment. -/

namespace DataLayer.Script

open DataLayer.Schema DataLayer.Text

/-- The remarks that whole-number columns are made of, the first of them at a position. -/
def counterRemarks (position : Nat) : List String → Remarks
  | [] => []
  | name :: names => .column ⟨.text name, .columnType .integer, .null⟩ :: .modifier position (.default (.int 0))
      :: counterRemarks (position + 1) names

/-- The remarks that a request makes on a table with so many columns. One that is refused makes none: a column
without a name, a modifier without a column, and a name that is no text. -/
def BlueprintRequest.remarks (count : Nat) : BlueprintRequest → Remarks
  | .column name type length =>
    match name.isBlankName with
    | .ok false => [.column ⟨name, type, length⟩]
    | _ => []
  | .counters names => if names.any isBlankText then [] else counterRemarks count names
  | .modifyLast _ modifier => if count = 0 then [] else [.modifier (count - 1) modifier]
  | .dropColumn name => if name.text?.isSome then [.dropColumn name] else []
  | .renameColumn source target definition =>
    if source.text?.isSome && target.text?.isSome then [.renameColumn source target definition] else []
  | .fragments => []
  | .build => []

/-- The remarks that a step makes on the column at a position. -/
def ColumnStep.remarks (position : Nat) : ColumnStep → Remarks
  | .modify modifier => [.modifier position modifier]
  | _ => []

namespace BlueprintStep

open BlueprintRequest (Outcome)

/-- The remarks of a step on the column at a position. -/
def remarksAt (d : Draft) (position : Nat) (step : Column → Except Misuse ColumnStep) : Remarks :=
  match d.blueprint.columns[position]? with
  | none => []
  | some column =>
    match step column with
    | .error _ => []
    | .ok step => step.remarks position

/-- The remarks of a step on what a step led to. -/
def remarksOn (d : Draft) (handle : Handle) (call : Call) : Remarks :=
  match handle with
  | .draft =>
    match BlueprintRequest.ofCall d call with
    | .error _ => []
    | .ok request => request.remarks d.blueprint.columns.length
  | .column position => remarksAt d position fun column => ColumnStep.ofCall column call
  | _ => []

/-- The remarks of the further steps. -/
def remarksAfter (outcome : Outcome) : List Call → Remarks
  | [] => []
  | call :: rest =>
    match outcome with
    | (.error _, _) => []
    | (.ok handle, d) => remarksOn d handle call ++ remarksAfter (performOn d handle call) rest

/-- The remarks of a step without the further ones. -/
def remarksFirst (d : Draft) (step : BlueprintStep) : Remarks :=
  if step.call.name = "raise" then []
  else match step.column with
    | none =>
      match d.look? step.call.name with
      | some _ => []
      | none => remarksOn d .draft step.call
    | some index =>
      match position? d.blueprint.columns.length index with
      | none => []
      | some position => remarksAt d position fun column =>
          match ColumnStep.look? step.call.name step.dialect with
          | some look => .ok look
          | none => ColumnStep.ofCall column step.call

/-- The remarks of a step. -/
def remarksOf (d : Draft) (step : BlueprintStep) : Remarks :=
  remarksFirst d step ++ remarksAfter (performFirst d step) step.after

/-- Takes steps one after the other, whatever becomes of each. -/
def performAll (d : Draft) (steps : List BlueprintStep) : Draft := steps.foldl (fun d step => (perform d step).2) d

/-- The remarks of steps that are taken one after the other. -/
def remarksAll (d : Draft) : List BlueprintStep → Remarks
  | [] => []
  | step :: rest => remarksOf d step ++ remarksAll (perform d step).2 rest

end BlueprintStep

/-- The draft that remarks amount to, from a first draft on. -/
def draftOf (start : Draft) (remarks : Remarks) : Draft where
  flag := start.flag
  blueprint := remarks.blueprint start.blueprint.table start.blueprint.isCreate start.blueprint.dialect

/-- Holds of a draft that is what remarks amount to. -/
structure Recorded (start : Draft) (remarks : Remarks) (d : Draft) : Prop where
  draft : d = draftOf start remarks
  grounded : remarks.Grounded

variable {start d : Draft} {remarks : Remarks}

/-- Nothing more was said. -/
theorem Recorded.idle (recorded : Recorded start remarks d) : Recorded start (remarks ++ []) d := by
  rwa [List.append_nil]

theorem Recorded.length (recorded : Recorded start remarks d) :
    d.blueprint.columns.length = remarks.declarations.length := by
  rw [recorded.draft]
  exact remarks.length_columns _ _ _

/-- A column is added exactly under a name that is not blank. -/
theorem addColumn_solid {name : Value} (solid : name.isBlankName = .ok false) (b : Blueprint) (type length : Value) :
    b.addColumn name type length =
      .ok { b with columns := b.columns ++ [{ name, type, length, alter := !b.isCreate }] } := by
  unfold Blueprint.addColumn Column.declare
  rw [solid]
  rfl

theorem addColumn_blank {name : Value} (blank : name.isBlankName ≠ .ok false) (b : Blueprint) (type length : Value) :
    ∃ fault, b.addColumn name type length = .error fault := by
  unfold Blueprint.addColumn Column.declare
  cases named : name.isBlankName with
  | error misuse => exact ⟨_, rfl⟩
  | ok truth =>
    cases truth with
    | true => exact ⟨_, rfl⟩
    | false => exact absurd named blank

theorem addCounters_solid {names : List String} (solid : names.any isBlankText = false) (grounded : remarks.Grounded)
    (table : Value) (isCreate : Bool) (dialect : Dialect) :
    let all : Remarks := remarks ++ counterRemarks remarks.declarations.length names
    (remarks.blueprint table isCreate dialect).addCounters names = .ok (all.blueprint table isCreate dialect) ∧
      all.Grounded := by
  induction names generalizing remarks with
  | nil => simpa [counterRemarks] using ⟨rfl, grounded⟩
  | cons name names ih =>
    rw [List.any_cons, Bool.or_eq_false_iff] at solid
    have named : (Value.text name).isBlankName = .ok false := by rw [Value.isBlankName_text, solid.1]
    let declared : Remarks := remarks ++ [.column ⟨.text name, .columnType .integer, .null⟩]
    let counted : Remarks := declared ++ [.modifier remarks.declarations.length (.default (.int 0))]
    have longer : declared.declarations.length = remarks.declarations.length + 1 := by simp [declared]
    have count : counted.declarations.length = remarks.declarations.length + 1 := by
      rw [← longer]
      exact congrArg List.length (Remarks.declarations_modifier _ _ _)
    have shape : remarks ++ counterRemarks remarks.declarations.length (name :: names) =
        counted ++ counterRemarks counted.declarations.length names := by
      rw [count]
      simp [counted, declared, counterRemarks]
    have first : (remarks.blueprint table isCreate dialect).addColumn (.text name) (.columnType .integer) .null =
        .ok (declared.blueprint table isCreate dialect) := by
      rw [addColumn_solid named, Remarks.blueprint_column grounded]
      rfl
    have second : (declared.blueprint table isCreate dialect).modifyAt remarks.declarations.length (.default (.int 0)) =
        counted.blueprint table isCreate dialect := (Remarks.blueprint_modifier _ _).symm
    have fresh : declared.Grounded := grounded.column _
    have last : remarks.declarations.length < declared.declarations.length := by omega
    obtain ⟨rest, all⟩ := ih solid.2 (fresh.modifier last (.default (.int 0)))
    simp only [shape]
    refine ⟨?_, all⟩
    rw [Blueprint.addCounters, first]
    change Blueprint.addCounters (Blueprint.modifyAt _ _ _) names = _
    rw [Remarks.length_columns, longer, Nat.add_sub_cancel, second, rest]

theorem addCounters_blank {names : List String} (blank : names.any isBlankText = true) (b : Blueprint) :
    ∃ fault, b.addCounters names = .error fault := by
  induction names generalizing b with
  | nil => cases blank
  | cons name names ih =>
    rw [Blueprint.addCounters]
    cases named : isBlankText name with
    | true =>
      have refused : (Value.text name).isBlankName ≠ .ok false := by simp [Value.isBlankName_text, named]
      obtain ⟨fault, failed⟩ := addColumn_blank refused b (.columnType .integer) .null
      exact ⟨fault, by rw [failed]; rfl⟩
    | false =>
      rw [addColumn_solid (by rw [Value.isBlankName_text, named])]
      exact ih (by simpa [named] using blank) _

namespace BlueprintRequest

/-- A request that fails leaves the draft as it was. -/
theorem perform_error {request : BlueprintRequest} {fault : Fault} (failed : (request.perform d).1 = .error fault) :
    (request.perform d).2 = d := by
  have change {handle : Blueprint → Handle} {result : Except Fault Blueprint}
      (failed : (change d handle result).1 = .error fault) : (change d handle result).2 = d := by
    cases result with
    | ok blueprint => cases failed
    | error fault => rfl
  cases request with
  | fragments => rfl
  | build => rfl
  | column name type length => exact change failed
  | counters names => exact change failed
  | modifyLast name modifier => exact change failed
  | dropColumn name => exact change failed
  | renameColumn source target definition => exact change failed

theorem change_recorded (recorded : Recorded start remarks d) {more : Remarks}
    (grounded : Remarks.Grounded (remarks ++ more)) (handle : Blueprint → Handle) {result : Except Fault Blueprint}
    (said : result = .ok (draftOf start (remarks ++ more)).blueprint) :
    Recorded start (remarks ++ more) (change d handle result).2 := by
  subst said
  refine ⟨?_, grounded⟩
  rw [recorded.draft]
  rfl

theorem change_refused (recorded : Recorded start remarks d) (handle : Blueprint → Handle)
    {result : Except Fault Blueprint} (refused : ∃ fault, result = .error fault) :
    Recorded start (remarks ++ []) (change d handle result).2 := by
  obtain ⟨fault, rfl⟩ := refused
  exact recorded.idle

theorem remarks_column {name : Value} (solid : name.isBlankName = .ok false) (count : Nat) (type length : Value) :
    BlueprintRequest.remarks count (.column name type length) = [.column ⟨name, type, length⟩] := by
  simp [BlueprintRequest.remarks, solid]

theorem remarks_blank {name : Value} (blank : name.isBlankName ≠ .ok false) (count : Nat) (type length : Value) :
    BlueprintRequest.remarks count (.column name type length) = [] := by
  simp only [BlueprintRequest.remarks]

/-- A request is recorded by its remarks. -/
theorem perform_recorded (recorded : Recorded start remarks d) (request : BlueprintRequest) :
    Recorded start (remarks ++ request.remarks d.blueprint.columns.length) (request.perform d).2 := by
  have count := recorded.length
  have grounded := recorded.grounded
  cases request with
  | fragments => exact recorded.idle
  | build => exact recorded.idle
  | column name type length =>
    by_cases solid : name.isBlankName = .ok false
    · rw [remarks_column solid]
      refine change_recorded recorded (grounded.column _) _ ?_
      rw [recorded.draft, addColumn_solid solid]
      exact congrArg Except.ok (Remarks.blueprint_column grounded ⟨name, type, length⟩).symm
    · rw [remarks_blank solid]
      exact change_refused recorded _ (addColumn_blank solid _ type length)
  | counters names =>
    cases blank : names.any isBlankText with
    | true =>
      have said : BlueprintRequest.remarks d.blueprint.columns.length (.counters names) = [] := by
        simp [BlueprintRequest.remarks, blank]
      rw [said]
      exact change_refused recorded _ (addCounters_blank blank _)
    | false =>
      have said : BlueprintRequest.remarks d.blueprint.columns.length (.counters names) =
          counterRemarks remarks.declarations.length names := by simp [BlueprintRequest.remarks, blank, count]
      obtain ⟨added, all⟩ := addCounters_solid blank grounded start.blueprint.table start.blueprint.isCreate
        start.blueprint.dialect
      rw [said]
      refine change_recorded recorded all _ ?_
      rw [recorded.draft]
      exact added
  | modifyLast name modifier =>
    by_cases none : d.blueprint.columns.length = 0
    · have said : BlueprintRequest.remarks d.blueprint.columns.length (.modifyLast name modifier) = [] := by
        simp [BlueprintRequest.remarks, none]
      have refused : ∃ fault, d.blueprint.modifyLast name modifier = .error fault := by
        simp [Blueprint.modifyLast, List.length_eq_zero_iff.mp none, refuse]
      rw [said]
      exact change_refused recorded _ refused
    · have said : BlueprintRequest.remarks d.blueprint.columns.length (.modifyLast name modifier) =
          [.modifier (d.blueprint.columns.length - 1) modifier] := by simp [BlueprintRequest.remarks, none]
      have some : d.blueprint.columns.isEmpty = false := by simpa using none
      have declared : d.blueprint.columns.length - 1 < remarks.declarations.length := by omega
      rw [said]
      refine change_recorded recorded (grounded.modifier declared modifier) _ ?_
      simp only [Blueprint.modifyLast, some, Bool.false_eq_true, ↓reduceIte]
      rw [recorded.draft]
      exact congrArg Except.ok (Remarks.blueprint_modifier _ modifier).symm
  | dropColumn name =>
    cases named : name.text?.isSome with
    | false =>
      have said : BlueprintRequest.remarks d.blueprint.columns.length (.dropColumn name) = [] := by
        simp [BlueprintRequest.remarks, named]
      obtain ⟨misuse, unnamed⟩ := Dialect.quoteIdentifier_other named
      rw [said]
      refine change_refused recorded _ ⟨.misuse misuse, ?_⟩
      rw [Blueprint.dropColumn, unnamed]
      rfl
    | true =>
      have said : BlueprintRequest.remarks d.blueprint.columns.length (.dropColumn name) = [.dropColumn name] := by
        simp [BlueprintRequest.remarks, named]
      rw [said]
      refine change_recorded recorded (grounded.command rfl) _ ?_
      rw [Blueprint.dropColumn, Dialect.quoteIdentifier_text named, recorded.draft]
      exact congrArg Except.ok (Remarks.blueprint_command rfl).symm
  | renameColumn source target definition =>
    cases named : source.text?.isSome && target.text?.isSome with
    | false =>
      have said : BlueprintRequest.remarks d.blueprint.columns.length (.renameColumn source target definition) =
          [] := by
        simp only [BlueprintRequest.remarks, named, Bool.false_eq_true, ↓reduceIte]
      have refused : ∃ misuse, d.blueprint.renameColumn source target definition = .error misuse := by
        unfold Blueprint.renameColumn
        cases first : source.text?.isSome with
        | false =>
          obtain ⟨misuse, unnamed⟩ := Dialect.quoteIdentifier_other first
          exact ⟨misuse, by rw [unnamed]; rfl⟩
        | true =>
          obtain ⟨misuse, unnamed⟩ := Dialect.quoteIdentifier_other (by simpa [first] using named)
          exact ⟨misuse, by rw [Dialect.quoteIdentifier_text first, unnamed]; rfl⟩
      obtain ⟨misuse, failed⟩ := refused
      rw [said]
      exact change_refused recorded _ ⟨.misuse misuse, by rw [failed]; rfl⟩
    | true =>
      have said : BlueprintRequest.remarks d.blueprint.columns.length (.renameColumn source target definition) =
          [.renameColumn source target definition] := by simp only [BlueprintRequest.remarks, named, ↓reduceIte]
      rw [Bool.and_eq_true] at named
      rw [said]
      refine change_recorded recorded (grounded.command rfl) _ ?_
      rw [Blueprint.renameColumn, Dialect.quoteIdentifier_text named.1, Dialect.quoteIdentifier_text named.2,
        recorded.draft]
      exact congrArg Except.ok (Remarks.blueprint_command rfl).symm

end BlueprintRequest

namespace BlueprintStep

open BlueprintRequest (Outcome)

theorem set_eq_modify {α : Type} {items : List α} {position : Nat} {item : α} (found : items[position]? = some item)
    (form : α → α) : items.set position (form item) = items.modify position form := by
  refine List.ext_getElem? fun other => ?_
  rw [List.getElem?_set, List.getElem?_modify]
  by_cases same : position = other
  · subst same
    obtain ⟨inside, rfl⟩ := List.getElem?_eq_some_iff.mp found
    simp [inside]
  · simp [same]

/-- A column that is put back where it was found. -/
theorem set_found {position : Nat} {column : Column} (found : d.blueprint.columns[position]? = some column) :
    { d with blueprint := { d.blueprint with columns := d.blueprint.columns.set position column } } = d := by
  have same : d.blueprint.columns.set position column = d.blueprint.columns :=
    (set_eq_modify found id).trans (by rw [List.modify_id])
  rw [same]

/-- A step on a column is recorded by its remarks. -/
theorem performColumn_recorded (recorded : Recorded start remarks d) (position : Nat)
    (step : Column → Except Misuse ColumnStep) :
    Recorded start (remarks ++ remarksAt d position step) (performColumn d position step).2 := by
  unfold remarksAt performColumn
  cases found : d.blueprint.columns[position]? with
  | none => exact recorded.idle
  | some column =>
    dsimp only
    cases asked : step column with
    | error misuse => exact recorded.idle
    | ok step =>
      have idle : Recorded start (remarks ++ [])
          { d with blueprint := { d.blueprint with columns := d.blueprint.columns.set position column } } := by
        rw [set_found found]
        exact recorded.idle
      cases step with
      | modifiers => exact idle
      | changed => exact idle
      | summary => exact idle
      | render dialect => exact idle
      | modify modifier =>
        have declared : position < remarks.declarations.length := by
          rw [← recorded.length]
          exact (List.getElem?_eq_some_iff.mp found).1
        refine ⟨?_, recorded.grounded.modifier declared modifier⟩
        have added := set_eq_modify found (fun column => column.modify modifier)
        change Draft.mk { d.blueprint with
          columns := d.blueprint.columns.set position (column.modify modifier) } d.flag = _
        rw [added, recorded.draft]
        simp only [draftOf, ColumnStep.remarks, Remarks.blueprint_modifier]
        rfl

theorem performOn_recorded (recorded : Recorded start remarks d) (handle : Handle) (call : Call) :
    Recorded start (remarks ++ remarksOn d handle call) (performOn d handle call).2 := by
  cases handle with
  | plain value => exact recorded.idle
  | list items => exact recorded.idle
  | column position => exact performColumn_recorded recorded position _
  | draft =>
    unfold performOn remarksOn performCall
    dsimp only
    cases BlueprintRequest.ofCall d call with
    | error misuse => exact recorded.idle
    | ok request => exact BlueprintRequest.perform_recorded recorded request

theorem performAfter_recorded {outcome : Outcome} (recorded : Recorded start remarks outcome.2) (calls : List Call) :
    Recorded start (remarks ++ remarksAfter outcome calls) (performAfter outcome calls).2 := by
  induction calls generalizing remarks outcome with
  | nil => exact recorded.idle
  | cons call rest ih =>
    obtain ⟨result, d⟩ := outcome
    cases result with
    | error fault => exact recorded.idle
    | ok handle =>
      rw [remarksAfter, performAfter, ← List.append_assoc]
      exact ih (performOn_recorded recorded handle call)

theorem performFirst_recorded (recorded : Recorded start remarks d) (step : BlueprintStep) :
    Recorded start (remarks ++ remarksFirst d step) (performFirst d step).2 := by
  unfold performFirst remarksFirst
  dsimp only
  split
  · exact recorded.idle
  · cases step.column with
    | none =>
      dsimp only
      cases d.look? step.call.name with
      | some handle => exact recorded.idle
      | none => exact performOn_recorded recorded .draft step.call
    | some index =>
      dsimp only
      cases position? d.blueprint.columns.length index with
      | none => exact recorded.idle
      | some position => exact performColumn_recorded recorded position _

/-- A step is recorded by its remarks, whatever becomes of it. -/
theorem perform_recorded (recorded : Recorded start remarks d) (step : BlueprintStep) :
    Recorded start (remarks ++ remarksOf d step) (perform d step).2 := by
  rw [remarksOf, ← List.append_assoc]
  exact performAfter_recorded (performFirst_recorded recorded step) step.after

theorem performAll_recorded (recorded : Recorded start remarks d) (steps : List BlueprintStep) :
    Recorded start (remarks ++ remarksAll d steps) (performAll d steps) := by
  induction steps generalizing remarks d with
  | nil => exact recorded.idle
  | cons step rest ih =>
    rw [remarksAll, ← List.append_assoc]
    exact ih (perform_recorded recorded step)

/-- A blueprint that has just been started says nothing yet. -/
theorem start_eq_ok {table : Value} {isCreate : Bool} {dialect : Dialect} {b : Blueprint}
    (started : Blueprint.start table isCreate dialect = .ok b) : b = { table, isCreate, dialect } := by
  unfold Blueprint.start at started
  cases named : table.isBlankName with
  | error misuse =>
    rw [named] at started
    cases started
  | ok blank =>
    rw [named] at started
    cases blank <;> cases started
    rfl

/-- Steps on a blueprint that has just been started are recorded by their remarks. -/
theorem started_recorded {table : Value} {isCreate : Bool} {dialect : Dialect} {b : Blueprint}
    (started : Blueprint.start table isCreate dialect = .ok b) (flag : Value) (steps : List BlueprintStep) :
    Recorded ⟨b, flag⟩ (remarksAll ⟨b, flag⟩ steps) (performAll ⟨b, flag⟩ steps) := by
  obtain rfl := start_eq_ok started
  have silent : Recorded ⟨{ table, isCreate, dialect }, flag⟩ [] ⟨{ table, isCreate, dialect }, flag⟩ :=
    ⟨rfl, fun _ _ => rfl⟩
  exact performAll_recorded silent steps

end BlueprintStep

end DataLayer.Script
