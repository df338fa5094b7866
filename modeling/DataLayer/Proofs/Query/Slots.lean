import DataLayer.Proofs.Query.Alignment
import DataLayer.Proofs.Query.Refusal
import Mathlib.Data.List.DropRight

/-! What a query keeps of its clauses. Each clause fills one slot: joins and predicates are gathered in
order, in the other slots the last clause counts, and a reset empties them all; main statement: a query
is what its slots hold, however the clauses of different slots come between each other, however many of
them were overwritten, and whatever was there before the last reset. -/

namespace DataLayer

open DataLayer.Action

variable {σ : Type}

/-- The parts of a query that clauses fill. -/
inductive Query.Slot where
  | selection
  | joins
  | predicates
  | order
  | limit
  | offset
deriving DecidableEq, Repr

/-- A slot that gathers its clauses; in the others the last clause counts. -/
def Query.Slot.gathers : Query.Slot → Bool
  | .joins => true
  | .predicates => true
  | _ => false

namespace Clause

/-- The slot that a clause fills. A reset fills none. -/
def slot? : Clause → Option Query.Slot
  | .select _ => some .selection
  | .join _ _ _ => some .joins
  | .fragment _ => some .predicates
  | .compare _ _ _ => some .predicates
  | .raw _ _ => some .predicates
  | .orderBy _ _ => some .order
  | .limit _ => some .limit
  | .offset _ => some .offset
  | .reset => none

/-- The select list that a clause stands for. -/
def selection? : Clause → Option Value
  | .select columns => (Query.selectionOf columns).toOption
  | _ => none

/-- The text of a join. -/
def joinText? : Clause → Option String
  | .join kind table condition => kind.upperCase.toOption.map fun kind =>
    kind.display ++ " JOIN " ++ table.display ++ " ON " ++ condition.display
  | _ => none

/-- The predicate that a clause stands for. -/
def predicate? : Clause → Option Predicate
  | .fragment sql => some { fragment := sql }
  | .compare column operator value =>
    some { fragment := .text (column.display ++ " " ++ operator.display ++ " ?"), params := [value] }
  | .raw sql params => params.elements?.map fun values => { fragment := sql, params := values }
  | _ => none

/-- The text of an order. -/
def orderText? : Clause → Option String
  | .orderBy column direction => direction.upperCase.toOption.map fun direction =>
    "ORDER BY " ++ column.display ++ " " ++ direction.display
  | _ => none

/-- The number of rows that a clause gives. -/
def count? : Clause → Option Nat
  | .limit count => Query.countOf? count
  | .offset count => Query.countOf? count
  | _ => none

end Clause

/-- What a slot keeps of some clauses: all of its own, or the last one. -/
def Query.Slot.kept (slot : Query.Slot) (clauses : List Clause) : List Clause :=
  let own := clauses.filter fun clause => clause.slot? = some slot
  if slot.gathers then own else own.getLast?.toList

/-- The clauses after the last reset. -/
def sinceReset (clauses : List Clause) : List Clause :=
  clauses.rtakeWhile fun clause => clause.slot?.isSome

/-- After their last resets, some clauses leave the same in every slot as others do. -/
def SameSlots (clauses others : List Clause) : Prop :=
  ∀ slot : Query.Slot, slot.kept (sinceReset clauses) = slot.kept (sinceReset others)

namespace Query.Slot

theorem kept_concat (slot : Query.Slot) (clauses : List Clause) (clause : Clause) :
    slot.kept (clauses ++ [clause]) =
      if clause.slot? = some slot then (if slot.gathers then slot.kept clauses ++ [clause] else [clause])
      else slot.kept clauses := by
  unfold kept
  rw [List.filter_append]
  by_cases own : clause.slot? = some slot
  · cases slot.gathers <;> simp [own]
  · cases slot.gathers <;> simp [own]

end Query.Slot

theorem sinceReset_reset (clauses : List Clause) : sinceReset (clauses ++ [.reset]) = [] :=
  List.rtakeWhile_concat_neg _ _ _ Bool.false_ne_true

theorem sinceReset_concat {clause : Clause} (fills : clause.slot?.isSome) (clauses : List Clause) :
    sinceReset (clauses ++ [clause]) = sinceReset clauses ++ [clause] :=
  List.rtakeWhile_concat_pos _ _ _ fills

namespace Query

/-- The query on a table whose slots hold some clauses. -/
def holding (table : Value) (kept : Query.Slot → List Clause) : Query where
  table := table
  selection := ((kept .selection).findSome? Clause.selection?).getD (.text "*")
  joins := (kept .joins).filterMap Clause.joinText?
  predicates := (kept .predicates).filterMap Clause.predicate?
  order := (kept .order).findSome? Clause.orderText?
  limit := (kept .limit).findSome? Clause.count?
  offset := (kept .offset).findSome? Clause.count?

theorem raw_predicate {q after : Query} {sql params : Value} (applied : q.raw sql params = (.ok (), after)) :
    ∃ predicate, (Clause.raw sql params).predicate? = some predicate ∧
      after = { q with predicates := q.predicates ++ [predicate] } := by
  obtain ⟨values, yields, rfl⟩ := raw_eq_ok applied
  refine ⟨{ fragment := sql, params := values }, ?_, rfl⟩
  unfold Value.elements at yields
  split at yields
  next row known =>
    rw [← Except.ok.inj yields]
    exact congrArg (Option.map _) known
  next => cases yields

theorem order_text {q after : Query} {column direction : Value}
    (applied : q.orderBy column direction = (.ok (), after)) :
    ∃ text, (Clause.orderBy column direction).orderText? = some text ∧ after = { q with order := some text } := by
  unfold orderBy at applied
  split at applied
  next => cases applied
  next raised upper =>
    split at applied
    next word =>
      split at applied
      next known =>
        refine ⟨_, ?_, (Prod.mk.inj applied).2.symm⟩
        simp only [Clause.orderText?, upper, Except.toOption, Option.map_some]
        rfl
      next => cases applied
    next => cases applied

theorem select_list {q after : Query} {columns : Value} (applied : q.select columns = (.ok (), after)) :
    ∃ selection, (Clause.select columns).selection? = some selection ∧ after = { q with selection } := by
  unfold select at applied
  split at applied
  next => cases applied
  next selection selected =>
    dsimp only at applied
    split at applied
    next => cases applied
    next => exact ⟨selection, congrArg Except.toOption selected, (Prod.mk.inj applied).2.symm⟩

theorem join_text {q after : Query} {kind table condition : Value}
    (applied : q.join kind table condition = (.ok (), after)) :
    ∃ text, (Clause.join kind table condition).joinText? = some text ∧
      after = { q with joins := q.joins ++ [text] } := by
  unfold join at applied
  split at applied
  next => cases applied
  next raised upper =>
    refine ⟨_, ?_, (Prod.mk.inj applied).2.symm⟩
    simp only [Clause.joinText?, upper, Except.toOption, Option.map_some]

/-- A clause that is accepted goes into its own slot, and leaves all others as they are. -/
theorem apply_holding {table : Value} {clauses : List Clause} {clause : Clause} {after : Query}
    (fills : clause.slot?.isSome)
    (applied : (holding table fun slot => slot.kept clauses).apply clause = (.ok (), after)) :
    after = holding table fun slot => slot.kept (clauses ++ [clause]) := by
  cases clause with
  | select columns =>
    obtain ⟨selection, known, rfl⟩ := select_list applied
    simp [holding, Query.Slot.kept_concat, Clause.slot?, Query.Slot.gathers, known]
  | join kind table condition =>
    obtain ⟨text, known, rfl⟩ := join_text applied
    simp [holding, Query.Slot.kept_concat, Clause.slot?, Query.Slot.gathers, known]
  | fragment sql =>
    cases applied
    simp [holding, Query.Slot.kept_concat, Clause.slot?, Query.Slot.gathers, Clause.predicate?, withPredicate]
  | compare column operator value =>
    cases applied
    simp [holding, Query.Slot.kept_concat, Clause.slot?, Query.Slot.gathers, Clause.predicate?, compare,
      withPredicate]
  | raw sql params =>
    obtain ⟨predicate, known, rfl⟩ := raw_predicate applied
    simp [holding, Query.Slot.kept_concat, Clause.slot?, Query.Slot.gathers, known]
  | orderBy column direction =>
    obtain ⟨text, known, rfl⟩ := order_text applied
    simp [holding, Query.Slot.kept_concat, Clause.slot?, Query.Slot.gathers, known]
  | limit count =>
    simp only [apply] at applied
    split at applied
    next n known =>
      cases applied
      simp [holding, Query.Slot.kept_concat, Clause.slot?, Query.Slot.gathers, Clause.count?, known]
    next => cases applied
  | offset count =>
    simp only [apply] at applied
    split at applied
    next n known =>
      cases applied
      simp [holding, Query.Slot.kept_concat, Clause.slot?, Query.Slot.gathers, Clause.count?, known]
    next => cases applied
  | reset => cases fills

theorem applyAll_concat (q : Query) (clauses : List Clause) (clause : Clause) :
    q.applyAll (clauses ++ [clause]) = (q.applyAll clauses >>= fun q => q.applyAll [clause]) := by
  induction clauses generalizing q with
  | nil => rfl
  | cons first rest ih =>
    rw [List.cons_append, applyAll, applyAll]
    rcases q.apply first with ⟨result, after⟩
    cases result with
    | error fault => rfl
    | ok _ => exact ih after

theorem applyAll_one {q after : Query} {clause : Clause} (applied : q.applyAll [clause] = .ok after) :
    q.apply clause = (.ok (), after) := by
  rw [applyAll] at applied
  rcases ended : q.apply clause with ⟨result, next⟩
  rw [ended] at applied
  cases result with
  | error fault => cases applied
  | ok _ => cases applied; rfl

/-- A query is what its slots hold. -/
theorem applyAll_holding {q after : Query} (fresh : q = { table := q.table }) {clauses : List Clause}
    (applied : q.applyAll clauses = .ok after) :
    after = holding q.table fun slot => slot.kept (sinceReset clauses) := by
  -- From the last clause back, since a reset is looked for from there.
  induction clauses using List.reverseRecOn generalizing after with
  | nil =>
    cases applied
    rw [fresh]
    rfl
  | append_singleton clauses clause ih =>
    rw [applyAll_concat] at applied
    cases before : q.applyAll clauses with
    | error fault => rw [before] at applied; cases applied
    | ok reached =>
      rw [before] at applied
      have last := applyAll_one applied
      rw [ih before] at last
      by_cases fills : clause.slot?.isSome
      · rw [sinceReset_concat fills]
        exact apply_holding fills last
      · obtain rfl : clause = .reset := by
          cases clause with
          | reset => rfl
          | _ => exact absurd rfl fills
        rw [sinceReset_reset]
        cases last
        rfl

end Query

namespace Script.QueryStep

/-- The change that a step makes to the query, if it is one. -/
def clause? : QueryStep → Option Clause
  | .clause change => some change
  | _ => none

/-- All changes that some steps make are accepted. -/
def Accepted (q : Query) (steps : List QueryStep) : Prop :=
  (q.applyAll (steps.filterMap clause?)).isOk

instance (q : Query) (steps : List QueryStep) : Decidable (Accepted q steps) :=
  inferInstanceAs (Decidable ((q.applyAll (steps.filterMap clause?)).isOk = true))

/-- Ending a query and looking at it leave it as it is. -/
theorem perform_query (db : Database σ) (q : Query) (step : QueryStep) (s : Session σ) :
    (perform db q step s).1.2 = match step.clause? with
      | some change => (q.apply change).2
      | none => q := by
  cases step <;> rfl

theorem performAll_query (db : Database σ) {q after : Query} {steps : List QueryStep}
    (applied : q.applyAll (steps.filterMap clause?) = .ok after) (s : Session σ) :
    (performAll db q steps s).1.2 = after := by
  induction steps generalizing q s with
  | nil =>
    cases applied
    rfl
  | cons step rest ih =>
    have one := perform_query db q step s
    rw [performAll_cons]
    dsimp only
    generalize perform db q step s = outcome at one ⊢
    rcases outcome with ⟨⟨answer, next⟩, reached⟩
    cases changes : step.clause? with
    | none =>
      rw [List.filterMap_cons_none changes] at applied
      rw [changes] at one
      obtain rfl : next = q := one
      exact ih applied reached
    | some change =>
      rw [List.filterMap_cons_some changes, Query.applyAll] at applied
      rw [changes] at one
      have moved : next = (q.apply change).2 := one
      rcases ended : q.apply change with ⟨result, changed⟩
      rw [ended] at applied moved
      obtain rfl : next = changed := moved
      cases result with
      | error fault => cases applied
      | ok _ => exact ih applied reached

/-- Steps whose changes are accepted lead to the query that holds what their slots keep. -/
theorem performAll_holding (db : Database σ) {table : Value} {fresh : Query} (started : Query.start table = .ok fresh)
    {steps : List QueryStep} (accepted : Accepted fresh steps) (s : Session σ) :
    (performAll db fresh steps s).1.2 =
      .holding table fun slot => slot.kept (sinceReset (steps.filterMap clause?)) := by
  obtain rfl := Query.start_ok started
  unfold Accepted at accepted
  cases applied : ({ table } : Query).applyAll (steps.filterMap clause?) with
  | error fault => rw [applied] at accepted; cases accepted
  | ok after =>
    rw [performAll_query db applied s]
    exact Query.applyAll_holding rfl applied

/-- Two rows of accepted steps on one table leave the same query as soon as they leave the same in every slot:
whatever came between and whatever was overwritten, it compiles to the same statements with the same values,
shows the same, and ends alike in every session. What was there before a reset does not matter at all. -/
theorem performAll_slots (db : Database σ) {table : Value} {fresh : Query} (started : Query.start table = .ok fresh)
    {steps others : List QueryStep} (accepted : Accepted fresh steps) (alike : Accepted fresh others)
    (same : SameSlots (steps.filterMap clause?) (others.filterMap clause?)) (s t : Session σ) :
    let q := (performAll db fresh steps s).1.2
    let q' := (performAll db fresh others t).1.2
    q.toSql = q'.toSql ∧ q.params = q'.params ∧ q.summary = q'.summary ∧
      (∀ terminal, q.prepare terminal = q'.prepare terminal ∧
        ∀ r : Session σ, on (q.finish db terminal) r = on (q'.finish db terminal) r) ∧
      ∀ (later : List QueryStep) (r : Session σ),
        performAll db q (.clause .reset :: later) r = performAll db fresh (.clause .reset :: later) r := by
  intro q q'
  have holds : q = .holding table _ := performAll_holding db started accepted s
  have holds' : q' = .holding table _ := performAll_holding db started alike t
  have agree : q = q' := by
    rw [holds, holds', funext same]
  refine ⟨congrArg _ agree, congrArg _ agree, congrArg _ agree, fun terminal => ⟨by rw [agree], fun r => by rw [agree]⟩,
    fun later r => ?_⟩
  have emptied : q.cleared = fresh.cleared := by
    rw [holds, Query.start_ok started]
    rfl
  rw [performAll_cons, performAll_cons]
  have cleared : perform db q (.clause .reset) r = perform db fresh (.clause .reset) r :=
    congrArg (fun next => ((Except.ok Reply.builder, next), r)) emptied
  rw [cleared]

/-- A select list and a limit that are overwritten, and a query that was something else before it was reset. -/
theorem performAll_slots_interleaved :
    let db : Database Scripted.Engine :=
      { kind := .sqlite, config := {}, now := ⟨⟨2025, 1, 1⟩, ⟨0, 0, 0, 0, none⟩⟩, driver := Scripted.driver }
    let s : Session Scripted.Engine := { engine := { script := [{ columns := ["a"], rows := [[.int 1]] }] } }
    let fresh : Query := { table := .text "t" }
    let large : QueryStep := .clause (.compare (.text "a") (.text ">") (.int 0))
    let named : QueryStep := .clause (.raw (.text "b = ?") (.tuple [.text "x"]))
    let steps : List QueryStep :=
      [.clause (.select (.text "a")), large, .clause (.limit (.int 9)), .terminal .get, .clause (.limit (.int 5)),
        .clause (.select (.text "b")), named]
    let others : List QueryStep :=
      [.clause (.fragment (.text "c = d")), .clause (.offset (.int 3)), .clause .reset, .clause (.limit (.int 5)), large,
        .toSql, named, .clause (.select (.text "b"))]
    let q := (performAll db fresh steps s).1.2
    let q' := (performAll db fresh others s).1.2
    Query.start (.text "t") = .ok fresh ∧ Accepted fresh steps ∧ Accepted fresh others ∧
      SameSlots (steps.filterMap clause?) (others.filterMap clause?) ∧
      q.toSql = q'.toSql ∧ q.params = q'.params ∧ q.summary = q'.summary ∧
      (∀ terminal, q.prepare terminal = q'.prepare terminal ∧
        ∀ r : Session Scripted.Engine, on (q.finish db terminal) r = on (q'.finish db terminal) r) ∧
      ∀ (later : List QueryStep) (r : Session Scripted.Engine),
        performAll db q (.clause .reset :: later) r = performAll db fresh (.clause .reset :: later) r := by
  intro db s fresh large named steps others q q'
  have started : Query.start (.text "t") = .ok fresh := rfl
  have accepted : Accepted fresh steps := by decide
  have alike : Accepted fresh others := by decide
  have same : SameSlots (steps.filterMap clause?) (others.filterMap clause?) := by
    intro slot
    cases slot <;> rfl
  exact ⟨started, accepted, alike, same, performAll_slots db started accepted alike same s s⟩

end Script.QueryStep
end DataLayer
